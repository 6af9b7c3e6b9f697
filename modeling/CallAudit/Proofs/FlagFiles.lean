import CallAudit.CommandLine.FlagFile
import CallAudit.Proofs.Success
import Mathlib.Data.List.Basic

/-!
# Splicing of flag files

Flag files are put in the place of the arguments that name them, and all else stays as it is.  Where
a list of arguments can be expanded, it can be cut off from what follows it: no argument before the
cut takes one behind it.
-/

namespace CallAudit

namespace Text

variable {t beginning rest : Text}

theorem after?_eq_some_iff : t.after? beginning = some rest ↔ t = beginning ++ rest := by
  unfold after?
  split
  · next h =>
    obtain ⟨rest', rfl⟩ := List.isPrefixOf_iff_prefix.mp h
    rw [List.drop_left, Option.some.injEq, List.append_cancel_left_eq]
  · next h =>
    constructor
    · rintro ⟨⟩
    · rintro rfl
      exact absurd (List.isPrefixOf_iff_prefix.mpr (List.prefix_append _ _)) h

theorem after?_append (beginning rest : Text) : (beginning ++ rest).after? beginning = some rest :=
  after?_eq_some_iff.mpr rfl

theorem after?_eq_none_iff : t.after? beginning = none ↔ ¬ beginning <+: t := by
  rw [Option.eq_none_iff_forall_ne_some]
  constructor
  · rintro h ⟨rest, rfl⟩
    exact h rest (after?_append beginning rest)
  · intro h rest hrest
    exact h ⟨rest, (after?_eq_some_iff.mp hrest).symm⟩

end Text

namespace FlagFile

/-- The argument names a flag file, or announces that the next one does. -/
def Announces (arg : Text) : Prop := arg = ("--flagfile" : Text) ∨ ("--flagfile=" : Text) <+: arg

instance (arg : Text) : Decidable (Announces arg) := inferInstanceAs (Decidable (_ ∨ _))

/-- The arguments become the words: those that announce no file stay, and each of the others, with
the name that may come after it, gives way to the words of its file. -/
inductive Splices (read : Path → Except SetupError (List Text)) : List Text → List Text → Prop
  | nil : Splices read [] []
  | keep {arg : Text} {args words : List Text} (harg : ¬ Announces arg)
      (h : Splices read args words) :
      Splices read (arg :: args) (arg :: words)
  | next {file : Text} {args inserted words : List Text} (hfile : read (.parse file) = .ok inserted)
      (h : Splices read args words) :
      Splices read (("--flagfile" : Text) :: file :: args) (inserted ++ words)
  | joined {file : Text} {args inserted words : List Text}
      (hfile : read (.parse file) = .ok inserted) (h : Splices read args words) :
      Splices read ((("--flagfile=" : Text) ++ file) :: args) (inserted ++ words)

/-- The expansion of arguments by a reader of files that may have effects. -/
def expandBy {m : Type → Type} [Monad m] [MonadExceptOf SetupError m]
    (read : Path → m (List Text)) :
    List Text → m (List Text)
  | [] => pure []
  | arg :: rest =>
    if arg = ("--flagfile" : Text) then
      match rest with
      | [] => throw .unnamedFlagFile
      | file :: rest => do
        let words ← read (.parse file)
        pure (words ++ (← expandBy read rest))
    else
      match arg.after? "--flagfile=" with
      | some file => do
        let words ← read (.parse file)
        pure (words ++ (← expandBy read rest))
      | none => do pure (arg :: (← expandBy read rest))

theorem isOption_iff {arg : Text} : isOption arg = true ↔ Announces arg := by
  rw [isOption, Bool.or_eq_true, beq_iff_eq, Announces]
  refine or_congr_right ?_
  rw [← Option.ne_none_iff_isSome, ne_eq, Text.after?_eq_none_iff, Decidable.not_not]

/-- In the form of the tests that `expand` makes. -/
theorem not_announces_iff {arg : Text} :
    ¬ Announces arg ↔ arg ≠ ("--flagfile" : Text) ∧ arg.after? "--flagfile=" = none := by
  rw [Announces, not_or, Text.after?_eq_none_iff]

theorem joined_ne (file : Text) : ("--flagfile=" : Text) ++ file ≠ ("--flagfile" : Text) := by
  intro h
  have hlength := congrArg List.length h
  rw [List.length_append] at hlength
  have hlonger : ("--flagfile" : Text).length < ("--flagfile=" : Text).length := by decide
  omega

section

variable {fs : FileSystem} {codecs : Codecs} {charset : Text}

/-! ### One argument -/

theorem expand_keep {arg : Text} (h : ¬ Announces arg) (rest : List Text) :
    expand fs codecs charset (arg :: rest) = (expand fs codecs charset rest).map (arg :: ·) := by
  obtain ⟨hne, hafter⟩ := not_announces_iff.mp h
  rw [expand.eq_def]
  simp only [if_neg hne, hafter]

theorem expand_next {file : Text} {inserted : List Text}
    (hfile : read fs codecs charset (.parse file) = .ok inserted) (rest : List Text) :
    expand fs codecs charset (("--flagfile" : Text) :: file :: rest) =
      (expand fs codecs charset rest).map (inserted ++ ·) := by
  rw [expand, if_pos rfl, hfile]
  rfl

theorem expand_joined {file : Text} {inserted : List Text}
    (hfile : read fs codecs charset (.parse file) = .ok inserted) (rest : List Text) :
    expand fs codecs charset ((("--flagfile=" : Text) ++ file) :: rest) =
      (expand fs codecs charset rest).map (inserted ++ ·) := by
  rw [expand.eq_def]
  simp only [if_neg (joined_ne file), Text.after?_append, hfile, ok_bind]
  rfl

/-- No word of a flag file names a flag file. -/
theorem yields_read (fs : FileSystem) (codecs : Codecs) (charset : Text) (path : Path) :
    Yields (read fs codecs charset path) fun words ↦ ∀ word ∈ words, ¬ Announces word := by
  unfold read
  refine .of_bind fun t ↦ .of_bind fun words ↦ ?_
  split
  · exact .error _
  · next hany =>
    apply Yields.ok
    intro word hword hannounces
    exact hany (List.any_eq_true.mpr ⟨word, hword, isOption_iff.mpr hannounces⟩)

/-! ### All arguments -/

theorem Splices.of_expand {args words : List Text} (h : expand fs codecs charset args = .ok words) :
    Splices (read fs codecs charset) args words := by
  fun_induction expand fs codecs charset args generalizing words with
  | case1 =>
      cases h
      exact .nil
  | case2 => cases h
  | case3 file rest ih =>
      obtain ⟨inserted, hfile, h⟩ := bind_eq_ok_iff.mp h
      obtain ⟨words', hrest, h⟩ := bind_eq_ok_iff.mp h
      cases h
      exact .next hfile (ih hrest)
  | case4 arg rest hne file hafter ih =>
      obtain rfl := Text.after?_eq_some_iff.mp hafter
      obtain ⟨inserted, hfile, h⟩ := bind_eq_ok_iff.mp h
      obtain ⟨words', hrest, h⟩ := bind_eq_ok_iff.mp h
      cases h
      exact .joined hfile (ih hrest)
  | case5 arg rest hne hafter ih =>
      obtain ⟨words', hrest, rfl⟩ := map_eq_ok_iff.mp h
      exact .keep (not_announces_iff.mpr ⟨hne, hafter⟩) (ih hrest)

/-- What was spliced is not touched by what follows. -/
theorem Splices.expand_append {args words : List Text}
    (h : Splices (read fs codecs charset) args words) (more : List Text) :
    expand fs codecs charset (args ++ more) = (expand fs codecs charset more).map (words ++ ·) := by
  induction h with
  | nil =>
      rw [List.nil_append]
      cases expand fs codecs charset more with
      | error e => rfl
      | ok words => rfl
  | keep harg h ih =>
      rw [List.cons_append, expand_keep harg, ih, map_map_eq]
      rfl
  | next hfile h ih =>
      rw [List.cons_append, List.cons_append, expand_next hfile, ih, map_map_eq]
      simp only [List.append_assoc]
  | joined hfile h ih =>
      rw [List.cons_append, expand_joined hfile, ih, map_map_eq]
      simp only [List.append_assoc]

/-- The expansion computes the relation `Splices`. -/
theorem expand_eq_ok_iff {args words : List Text} :
    expand fs codecs charset args = .ok words ↔ Splices (read fs codecs charset) args words := by
  refine ⟨.of_expand, fun h ↦ ?_⟩
  have happend := h.expand_append []
  rw [List.append_nil, expand] at happend
  rw [happend]
  exact congrArg Except.ok (List.append_nil words)

theorem Splices.not_announces {args words : List Text}
    (h : Splices (read fs codecs charset) args words) :
    ∀ word ∈ words, ¬ Announces word := by
  induction h with
  | nil => exact List.forall_mem_nil _
  | keep harg h ih => exact List.forall_mem_cons.mpr ⟨harg, ih⟩
  | next hfile h ih => exact List.forall_mem_append.mpr ⟨yields_read _ _ _ _ _ hfile, ih⟩
  | joined hfile h ih => exact List.forall_mem_append.mpr ⟨yields_read _ _ _ _ _ hfile, ih⟩

theorem splices_self {read : Path → Except SetupError (List Text)} {args : List Text}
    (h : ∀ arg ∈ args, ¬ Announces arg) : Splices read args args := by
  induction args with
  | nil => exact .nil
  | cons arg args ih =>
      obtain ⟨harg, hargs⟩ := List.forall_mem_cons.mp h
      exact .keep harg (ih hargs)

end

/-! ### Files that are read -/

/-- For a reader without effects, the expansion is the one that is run. -/
theorem expandBy_read (fs : FileSystem) (codecs : Codecs) (charset : Text) (args : List Text) :
    expandBy (read fs codecs charset) args = expand fs codecs charset args := by
  fun_induction expand fs codecs charset args with
  | case1 => rfl
  | case2 => rfl
  | case3 file rest ih => rw [expandBy, if_pos rfl, ih]
  | case4 arg rest hne file hafter ih =>
      rw [expandBy.eq_def]
      simp only [if_neg hne, hafter, ih]
  | case5 arg rest hne hafter ih =>
      rw [expandBy.eq_def]
      simp only [if_neg hne, hafter, ih]
      rfl

/-- Where no argument announces a file, no file is read. -/
theorem expandBy_of_not_announces {m : Type → Type} [Monad m] [LawfulMonad m]
    [MonadExceptOf SetupError m] (read : Path → m (List Text)) {args : List Text}
    (h : ∀ arg ∈ args, ¬ Announces arg) :
    expandBy read args = pure args := by
  induction args with
  | nil => rfl
  | cons arg args ih =>
      obtain ⟨harg, hargs⟩ := List.forall_mem_cons.mp h
      obtain ⟨hne, hafter⟩ := not_announces_iff.mp harg
      rw [expandBy.eq_def]
      simp only [if_neg hne, hafter, ih hargs, pure_bind]

/-- Expansion replaces the arguments that announce flag files by the words of the files.  What comes
out announces no file and is not changed by a second expansion, and it does not depend on further
arguments, which are expanded, or fail to be, as they are alone.  Arguments that announce no file
are left as they are, and no file is read: with any effects of reading, their expansion has none. -/
theorem expand_splices (fs : FileSystem) (codecs : Codecs) (charset : Text) (args : List Text) :
    (∀ words, expand fs codecs charset args = .ok words ↔
      Splices (read fs codecs charset) args words) ∧
      (∀ words, expand fs codecs charset args = .ok words →
        (∀ word ∈ words, word ≠ ("--flagfile" : Text) ∧ ¬ ("--flagfile=" : Text) <+: word) ∧
          expand fs codecs charset words = .ok words ∧
          ∀ more, expand fs codecs charset (args ++ more) =
            (expand fs codecs charset more).map (words ++ ·)) ∧
      expandBy (read fs codecs charset) args = expand fs codecs charset args ∧
      ((∀ arg ∈ args, arg ≠ ("--flagfile" : Text) ∧ ¬ ("--flagfile=" : Text) <+: arg) →
        expand fs codecs charset args = .ok args ∧
          ∀ (m : Type → Type) [Monad m] [LawfulMonad m] [MonadExceptOf SetupError m]
          (reader : Path → m (List Text)),
            expandBy reader args = pure args) := by
  refine ⟨fun words ↦ expand_eq_ok_iff, ?_, expandBy_read fs codecs charset args, ?_⟩
  · intro words hwords
    have hsplices := expand_eq_ok_iff.mp hwords
    refine ⟨?_, ?_, hsplices.expand_append⟩
    · intro word hword
      exact not_or.mp (hsplices.not_announces word hword)
    · exact expand_eq_ok_iff.mpr (splices_self hsplices.not_announces)
  · intro hargs
    have hnone : ∀ arg ∈ args, ¬ Announces arg := fun arg harg ↦ not_or.mpr (hargs arg harg)
    refine ⟨expand_eq_ok_iff.mpr (splices_self hnone), ?_⟩
    intro m _ _ _ reader
    exact expandBy_of_not_announces reader hnone

/-- A flag file that goes by the name of the option, with the content `-j 2`. -/
def optionFile : FileSystem where
  files := [([FileName.ofText "--flagfile"], [0x2D, 0x6A, 0x20, 0x32])]

theorem expand_splices_optionFile :
    expand optionFile Charset.codecs "UTF-8" ["a.js", "--flagfile", "--flagfile", "b.js"] =
        .ok ["a.js", "-j", "2", "b.js"] ∧
      expand optionFile Charset.codecs "UTF-8"
        ["a.js", "--flagfile", "--flagfile", "b.js", "--flagfile"] = .error .unnamedFlagFile ∧
      expandBy (fun path ↦ do modify (path :: ·); pure []) ["a.js", "-j"] =
        (pure ["a.js", "-j"] : StateT (List Path) (Except SetupError) (List Text)) := by
  have hwords : expand optionFile Charset.codecs "UTF-8"
      ["a.js", "--flagfile", "--flagfile", "b.js"] = .ok ["a.js", "-j", "2", "b.js"] := by
    decide +kernel
  refine ⟨hwords, ?_, ?_⟩
  · exact ((expand_splices optionFile Charset.codecs "UTF-8" _).2.1 _ hwords).2.2 ["--flagfile"]
  · have hnone := (expand_splices optionFile Charset.codecs "UTF-8" ["a.js", "-j"]).2.2.2
    exact (hnone (by decide)).2 _ _

end FlagFile

end CallAudit
