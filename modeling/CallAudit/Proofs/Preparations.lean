import CallAudit.CommandLine.Outcome
import CallAudit.Proofs.SourceSearch

/-!
# Preparations

What the setup of an audit asks for, one step after the other: the settings, the level of the log,
files of forbidden names, and sources.  Either all of it is there, or the first step that fails says
why.
-/

namespace CallAudit

/-! ### Settings -/

namespace Settings

section

variable (fs : FileSystem) (codecs : Codecs) (format : VariableFormat) (env : Environment)
  (file : Path)

/-- Why there are no settings: the file of variables cannot be read, a variable in it cannot be set,
or a variable has a value that is none for it. -/
inductive Flawed : SetupFailure → Prop
  | unread {fault : ReadError} (h : fileText fs codecs file = .error (.fatal fault)) :
      Flawed (.fatal fault)
  | unset {text name : Text} (htext : fileText fs codecs file = .ok text)
      (h : env.unsettable? (format env.value? text) = some name) : Flawed (.unsettable name)
  | invalid {text : Text} {e : SetupError} (htext : fileText fs codecs file = .ok text)
      (hset : env.unsettable? (format env.value? text) = none)
      (h : ofVariables (env.extended? (format env.value? text)) = .error e) :
      Flawed (.reported e)

end

variable {fs : FileSystem} {codecs : Codecs} {format : VariableFormat} {env : Environment}
  {file : Path} {failure : SetupFailure}

theorem exists_fatal_of_fileText_eq_error (h : fileText fs codecs file = .error failure) :
    ∃ fault, failure = .fatal fault := by
  unfold fileText at h
  split at h
  · obtain ⟨fault, -, rfl⟩ := mapError_eq_error_iff.mp h
    exact ⟨fault, rfl⟩
  · cases h

/-- The reasons for which there are no settings are complete. -/
theorem load_eq_error_iff :
    load fs codecs format env file = .error failure ↔
      Flawed fs codecs format env file failure := by
  unfold load
  constructor
  · intro h
    rcases bind_eq_error_iff.mp h with htext | ⟨text, htext, h⟩
    · obtain ⟨fault, rfl⟩ := exists_fatal_of_fileText_eq_error htext
      exact .unread htext
    · dsimp only at h
      split at h
      · next name hname =>
        cases h
        exact .unset htext hname
      · next hset =>
        obtain ⟨e, he, rfl⟩ := mapError_eq_error_iff.mp h
        exact .invalid htext hset he
  · intro h
    cases h with
    | unread h =>
        rw [h]
        rfl
    | unset htext h =>
        rw [htext]
        simp only [ok_bind, h]
    | invalid htext hset h =>
        rw [htext]
        simp only [ok_bind, hset, h]
        rfl

end Settings

/-! ### Names and sources -/

theorem Forbidden.snd_load (fs : FileSystem) (codecs : Codecs) (charset : Text)
    (paths : List Path) :
    (load fs codecs charset paths).2 =
      (paths.mapM fun path ↦
        (fs.readText codecs charset path).mapError (ReadError.toFailure .names path)).map
          ofTexts := by
  simp only [load, List.mapM_map, Function.comp_def]

namespace Source

theorem load_eq (fs : FileSystem) (codecs : Codecs) (charset : Text) (path : Path) :
    load fs codecs charset none path =
      ((fs.readText codecs charset path).mapError (ReadError.toFailure .source path)).map
        (Source.mk path.render) := by
  unfold load
  cases fs.readText codecs charset path with
  | error e => rfl
  | ok content => rfl

end Source

namespace Outcome

variable {w : Workplace} {o : Options} {p : Preparation}

theorem names_eq_ok_iff {fs : FileSystem} {codecs : Codecs} {charset : Text} {paths : List Path}
    {forbidden : Forbidden} :
    (Forbidden.load fs codecs charset paths).2 = .ok forbidden ↔
      ∃ texts, List.Forall₂ (fun path text ↦ fs.readText codecs charset path = .ok text) paths
        texts ∧ Forbidden.ofTexts texts = forbidden := by
  simp only [Forbidden.snd_load, map_eq_ok_iff, mapM_eq_ok_iff, mapError_eq_ok_iff]

theorem names_eq_error_iff {fs : FileSystem} {codecs : Codecs} {charset : Text}
    {paths : List Path} {failure : SetupFailure} :
    (Forbidden.load fs codecs charset paths).2 = .error failure ↔
      ∃ path fault, FailsAt (fs.readText codecs charset) paths path fault ∧
        fault.toFailure .names path = failure := by
  simp only [Forbidden.snd_load, map_eq_error_iff, mapM_eq_error_iff, FailsAt.mapError_iff]

theorem succeeds_names_iff {fs : FileSystem} {codecs : Codecs} {charset : Text}
    {paths : List Path} :
    Succeeds (Forbidden.load fs codecs charset paths).2 ↔
      ∀ path ∈ paths, Succeeds (fs.readText codecs charset path) := by
  simp only [Forbidden.snd_load, Succeeds.map_iff, Succeeds.mapM_iff, Succeeds.mapError_iff]

def Holds (w : Workplace) (charset : Text) (path : Path) (s : Source) : Prop :=
  ∃ content, w.files.readText w.codecs charset path = .ok content ∧ ⟨path.render, content⟩ = s

theorem sources_eq_ok_iff {charset : Text} {paths : List Path} {ss : List Source} :
    sources w charset paths = .ok ss ↔
      ∃ files, Source.collect w.files paths = .ok files ∧
        List.Forall₂ (Holds w charset) files ss := by
  have hload : ∀ {files},
      files.mapM (Source.load w.files w.codecs charset none) = .ok ss ↔
        List.Forall₂ (Holds w charset) files ss := by
    intro files
    simp only [mapM_eq_ok_iff, Source.load_eq, map_eq_ok_iff, mapError_eq_ok_iff]
    rfl
  unfold sources
  constructor
  · intro h
    obtain ⟨files, hfiles, h⟩ := bind_eq_ok_iff.mp h
    exact ⟨files, hfiles, hload.mp h⟩
  · rintro ⟨files, hfiles, h⟩
    rw [hfiles]
    exact hload.mpr h

/-- Paths are resolved before the first file is read. -/
theorem sources_eq_error_iff {charset : Text} {paths : List Path} {failure : SetupFailure} :
    sources w charset paths = .error failure ↔
      (∃ path, FirstAt (Source.Unresolved w.files) paths path failure) ∨
        ∃ files, Source.collect w.files paths = .ok files ∧
          ∃ path fault, FailsAt (w.files.readText w.codecs charset) files path fault ∧
            fault.toFailure .source path = failure := by
  have hload : ∀ {files},
      files.mapM (Source.load w.files w.codecs charset none) = .error failure ↔
        ∃ path fault, FailsAt (w.files.readText w.codecs charset) files path fault ∧
          fault.toFailure .source path = failure := by
    intro files
    rw [mapM_eq_error_iff, funext (Source.load_eq w.files w.codecs charset)]
    simp only [FailsAt.map_iff, FailsAt.mapError_iff]
  unfold sources
  constructor
  · intro h
    rcases bind_eq_error_iff.mp h with hfiles | ⟨files, hfiles, h⟩
    · exact .inl (Source.collect_eq_error_iff.mp hfiles)
    · exact .inr ⟨files, hfiles, hload.mp h⟩
  · rintro (hfails | ⟨files, hfiles, h⟩)
    · rw [Source.collect_eq_error_iff.mpr hfails]
      rfl
    · rw [hfiles]
      exact hload.mpr h

/-! ### All steps -/

def charset (o : Options) (settings : Settings) : Text := (given o.charset?).getD settings.charset

def nameFiles (o : Options) (settings : Settings) : List Path :=
  if o.nameFiles.isEmpty then settings.nameFiles else o.nameFiles

/-- What is asked for before a file of names is opened. -/
structure Configured (w : Workplace) (o : Options) (settings : Settings) (l : Log.Level) :
    Prop where
  load_eq : w.settings = .ok settings
  level_eq : level o settings = .ok l
  nameFiles_ne_nil : nameFiles o settings ≠ []

def Named (w : Workplace) (o : Options) (settings : Settings) : Prop :=
  ∀ path ∈ nameFiles o settings,
    Succeeds (w.files.readText w.codecs (charset o settings) path)

/-- All that an audit needs is there: a configuration, names that can be read, and sources that
exist and can be read. -/
inductive Ready (w : Workplace) (o : Options) (p : Preparation) : Prop
  | intro {settings : Settings} {texts : List Text} {files : List Path}
      (hconfigured : Configured w o settings p.level)
      (htexts : List.Forall₂
        (fun path text ↦ w.files.readText w.codecs (charset o settings) path = .ok text)
        (nameFiles o settings) texts)
      (hforbidden : Forbidden.ofTexts texts = p.forbidden)
      (hfiles : Source.collect w.files o.paths = .ok files)
      (hsources : List.Forall₂ (Holds w (charset o settings)) files p.sources)

/-- Something that an audit needs is not there, with the failure that this is. -/
inductive Hindered (w : Workplace) (o : Options) : SetupFailure → Prop
  | settings {failure : SetupFailure}
      (h : Settings.Flawed w.files w.codecs w.variableFormat w.environment w.envFile failure) :
      Hindered w o failure
  | level {settings : Settings} {e : SetupError} (hsettings : w.settings = .ok settings)
      (h : level o settings = .error e) : Hindered w o (.reported e)
  | noNameFile {settings : Settings} {l : Log.Level} (hsettings : w.settings = .ok settings)
      (hlevel : Outcome.level o settings = .ok l) (h : nameFiles o settings = []) :
      Hindered w o (.reported .noNameFile)
  | names {settings : Settings} {l : Log.Level} {path : Path} {fault : ReadError}
      (hconfigured : Configured w o settings l)
      (h : FailsAt (w.files.readText w.codecs (charset o settings)) (nameFiles o settings) path
        fault) : Hindered w o (fault.toFailure .names path)
  | paths {settings : Settings} {l : Log.Level} {path : Path} {failure : SetupFailure}
      (hconfigured : Configured w o settings l) (hnames : Named w o settings)
      (h : FirstAt (Source.Unresolved w.files) o.paths path failure) : Hindered w o failure
  | source {settings : Settings} {l : Log.Level} {files : List Path} {path : Path}
      {fault : ReadError} (hconfigured : Configured w o settings l)
      (hnames : Named w o settings) (hfiles : Source.collect w.files o.paths = .ok files)
      (h : FailsAt (w.files.readText w.codecs (charset o settings)) files path fault) :
      Hindered w o (fault.toFailure .source path)

/-- The setup without its log, one step after the other. -/
theorem snd_prepare (w : Workplace) (o : Options) :
    (prepare w o).2 = (do
      let settings ← w.settings
      let level ← (level o settings).mapError .reported
      if nameFiles o settings = [] then .error (.reported .noNameFile)
      else
        let forbidden ←
          (Forbidden.load w.files w.codecs (charset o settings) (nameFiles o settings)).2
        let sources ← sources w (charset o settings) o.paths
        pure { level, forbidden, sources }) := by
  unfold prepare
  cases w.settings with
  | error failure => rfl
  | ok settings =>
      simp only [ok_bind]
      cases level o settings with
      | error e => rfl
      | ok l =>
          simp only [mapError_ok, ok_bind]
          by_cases hnames : nameFiles o settings = []
          · rw [if_pos hnames]
            exact congrArg Prod.snd (if_pos (List.isEmpty_iff.mpr hnames))
          · rw [if_neg hnames]
            exact congrArg Prod.snd (if_neg (mt List.isEmpty_iff.mp hnames))

theorem Configured.snd_prepare {settings : Settings} {l : Log.Level}
    (h : Configured w o settings l) :
    (prepare w o).2 = (do
      let forbidden ←
        (Forbidden.load w.files w.codecs (charset o settings) (nameFiles o settings)).2
      let sources ← sources w (charset o settings) o.paths
      pure { level := l, forbidden, sources }) := by
  rw [Outcome.snd_prepare, h.load_eq, ok_bind, h.level_eq]
  simp only [mapError_ok, ok_bind, h.nameFiles_ne_nil, if_false]

/-- The preparation computes what the conditions describe. -/
theorem prepare_eq_ok_iff : (prepare w o).2 = .ok p ↔ Ready w o p := by
  constructor
  · intro h
    rw [snd_prepare] at h
    obtain ⟨settings, hsettings, h⟩ := bind_eq_ok_iff.mp h
    obtain ⟨l, hlevel, h⟩ := bind_eq_ok_iff.mp h
    split at h
    · cases h
    · next hnames =>
      obtain ⟨forbidden, hforbidden, h⟩ := bind_eq_ok_iff.mp h
      obtain ⟨ss, hss, h⟩ := bind_eq_ok_iff.mp h
      cases h
      obtain ⟨texts, htexts, hforbidden⟩ := names_eq_ok_iff.mp hforbidden
      obtain ⟨files, hfiles, hsources⟩ := sources_eq_ok_iff.mp hss
      exact ⟨⟨hsettings, mapError_eq_ok_iff.mp hlevel, hnames⟩, htexts, hforbidden, hfiles,
        hsources⟩
  · rintro ⟨hconfigured, htexts, hforbidden, hfiles, hsources⟩
    rw [hconfigured.snd_prepare, names_eq_ok_iff.mpr ⟨_, htexts, hforbidden⟩,
      sources_eq_ok_iff.mpr ⟨_, hfiles, hsources⟩]
    rfl

/-- The first step that fails decides how the preparation fails. -/
theorem prepare_eq_error_iff {failure : SetupFailure} :
    (prepare w o).2 = .error failure ↔ Hindered w o failure := by
  constructor
  · intro h
    rw [snd_prepare] at h
    rcases bind_eq_error_iff.mp h with hsettings | ⟨settings, hsettings, h⟩
    · exact .settings (Settings.load_eq_error_iff.mp hsettings)
    rcases bind_eq_error_iff.mp h with hlevel | ⟨l, hlevel, h⟩
    · obtain ⟨e, he, rfl⟩ := mapError_eq_error_iff.mp hlevel
      exact .level hsettings he
    have hlevel := mapError_eq_ok_iff.mp hlevel
    split at h
    · next hnames =>
      cases h
      exact .noNameFile hsettings hlevel hnames
    next hnames =>
    have hconfigured : Configured w o settings l := ⟨hsettings, hlevel, hnames⟩
    rcases bind_eq_error_iff.mp h with hforbidden | ⟨forbidden, hforbidden, h⟩
    · obtain ⟨path, fault, hfails, rfl⟩ := names_eq_error_iff.mp hforbidden
      exact .names hconfigured hfails
    have hreadable := succeeds_names_iff.mp ⟨forbidden, hforbidden⟩
    rcases bind_eq_error_iff.mp h with hsources | ⟨ss, -, h⟩
    · rcases sources_eq_error_iff.mp hsources with
        ⟨path, hfails⟩ | ⟨files, hfiles, path, fault, hfails, rfl⟩
      · exact .paths hconfigured hreadable hfails
      · exact .source hconfigured hreadable hfiles hfails
    · cases h
  · intro h
    cases h with
    | settings h =>
        rw [snd_prepare, Workplace.settings, Settings.load_eq_error_iff.mpr h]
        rfl
    | level hsettings h =>
        rw [snd_prepare, hsettings, ok_bind, h]
        rfl
    | noNameFile hsettings hlevel h =>
        rw [snd_prepare, hsettings, ok_bind, hlevel]
        simp only [mapError_ok, ok_bind, h, if_true]
    | names hconfigured h =>
        rw [hconfigured.snd_prepare, names_eq_error_iff.mpr ⟨_, _, h, rfl⟩]
        rfl
    | paths hconfigured hnames h =>
        obtain ⟨forbidden, hforbidden⟩ := succeeds_names_iff.mpr hnames
        rw [hconfigured.snd_prepare, hforbidden, sources_eq_error_iff.mpr (.inl ⟨_, h⟩)]
        rfl
    | source hconfigured hnames hfiles h =>
        obtain ⟨forbidden, hforbidden⟩ := succeeds_names_iff.mpr hnames
        rw [hconfigured.snd_prepare, hforbidden,
          sources_eq_error_iff.mpr (.inr ⟨_, hfiles, _, _, h, rfl⟩)]
        rfl

theorem Ready.unique {p' : Preparation} (h : Ready w o p) (h' : Ready w o p') : p = p' :=
  Except.ok.inj ((prepare_eq_ok_iff.mpr h).symm.trans (prepare_eq_ok_iff.mpr h'))

/-- There is nothing between being ready and being hindered. -/
theorem ready_or_hindered (w : Workplace) (o : Options) :
    (∃ p, Ready w o p) ∨ ∃ failure, Hindered w o failure := by
  cases h : (prepare w o).2 with
  | error failure => exact .inr ⟨failure, prepare_eq_error_iff.mp h⟩
  | ok p => exact .inl ⟨p, prepare_eq_ok_iff.mp h⟩

/-- What the sources of a setup hold was read from files, and can be encoded if all that is decoded
can be. -/
theorem Ready.encodable (hcodecs : w.codecs.Scalar) (h : Ready w o p) :
    ∀ s ∈ p.sources, s.content.Scalar := by
  obtain ⟨-, -, -, -, hsources⟩ := h
  generalize p.sources = ss at hsources
  induction hsources with
  | nil => exact List.forall_mem_nil _
  | cons hread _ ih =>
      obtain ⟨content, hcontent, rfl⟩ := hread
      exact List.forall_mem_cons.mpr ⟨w.files.yields_readText hcodecs _ _ _ hcontent, ih⟩

end Outcome

end CallAudit
