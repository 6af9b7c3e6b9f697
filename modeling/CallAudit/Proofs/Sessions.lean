import CallAudit.CommandLine.Session
import CallAudit.Proofs.Success

/-!
# Sessions

What is known of the parts of a session is known of the whole: its result, what it prints as
results, and what holds of all that it shows.  Streams that take everything leave a session as it
is, and others end it at the first print that they refuse.
-/

namespace CallAudit

namespace Session

variable {α β : Type} {x : Session α} {f : α → Session β}

theorem bind_of_ok {a : α} (h : x.result = .ok a) (f : α → Session β) :
    x >>= f = ⟨x.events ++ (f a).events, (f a).result⟩ := by
  obtain ⟨events, result⟩ := x
  subst h
  rfl

theorem bind_of_error {stop : Stop} (h : x.result = .error stop) (f : α → Session β) :
    x >>= f = ⟨x.events, .error stop⟩ := by
  obtain ⟨events, result⟩ := x
  subst h
  rfl

instance : LawfulMonad Session := LawfulMonad.mk' Session
  (by
    intro α x
    obtain ⟨events, stop | a⟩ := x
    · rfl
    · exact congrArg (Session.mk · _) (List.append_nil events))
  (by
    intro α β a f
    rfl)
  (by
    intro α β γ x f g
    obtain ⟨events, stop | a⟩ := x
    · rfl
    · rw [bind_of_ok rfl f, bind_of_ok rfl fun a ↦ f a >>= g]
      cases h : (f a).result with
      | error stop => rw [bind_of_error rfl, bind_of_error h]
      | ok b => rw [bind_of_ok rfl, bind_of_ok h, List.append_assoc])

/-- Results do not depend on what is printed. -/
theorem result_bind (x : Session α) (f : α → Session β) :
    (x >>= f).result = x.result >>= fun a ↦ (f a).result := by
  obtain ⟨events, stop | a⟩ := x
  · rfl
  · rfl

theorem result_mapM (f : α → Session β) (as : List α) :
    (as.mapM f).result = as.mapM fun a ↦ (f a).result := by
  induction as with
  | nil => rfl
  | cons a as ih =>
      rw [List.mapM_cons, List.mapM_cons, result_bind]
      simp only [result_bind, ih]
      rfl

theorem result_forM (f : α → Session PUnit) (as : List α) :
    (as.forM f).result = as.forM fun a ↦ (f a).result := by
  induction as with
  | nil => rfl
  | cons a as ih =>
      rw [List.forM, List.forM, result_bind]
      simp only [ih]

/-! ### What is printed -/

section Printed

variable (channel : Channel)

theorem printed_bind_of_ok {a : α} (h : x.result = .ok a) (f : α → Session β) :
    (x >>= f).printed channel = x.printed channel ++ (f a).printed channel := by
  rw [bind_of_ok h]
  exact List.filterMap_append

@[simp] theorem printed_log (entries : List Log.Entry) :
    (Session.log entries).printed channel = [] := by
  simp [Session.log, tell, printed]

@[simp] theorem printed_print (contents : List Print) :
    (Session.print channel contents).printed channel = contents := by
  simp [Session.print, tell, printed]

theorem printed_print_of_ne {other : Channel} (h : other ≠ channel) (contents : List Print) :
    (Session.print other contents).printed channel = [] := by
  simp [Session.print, tell, printed, h]

end Printed

/-! ### Sessions that come to an end -/

/-- The session comes to a result, with these as the printed results. -/
structure Gives (s : Session α) (out : List Print) (a : α) : Prop where
  result_eq : s.result = .ok a
  out_eq : s.out = out

namespace Gives

theorem pure (a : α) : Gives (Pure.pure a) [] a := ⟨rfl, rfl⟩

theorem bind {out out' : List Print} {a : α} {b : β} (hx : Gives x out a)
    (hf : Gives (f a) out' b) : Gives (x >>= f) (out ++ out') b := by
  refine ⟨?_, ?_⟩
  · rw [result_bind, hx.result_eq, ok_bind, hf.result_eq]
  · rw [← hx.out_eq, ← hf.out_eq]
    exact printed_bind_of_ok .out hx.result_eq f

theorem quiet {x : Except Stop α} {a : α} (h : x = .ok a) : Gives (Session.quiet x) [] a := ⟨h, rfl⟩

theorem log (entries : List Log.Entry) : Gives (Session.log entries) [] () :=
  ⟨rfl, printed_log .out entries⟩

theorem print_out (contents : List Print) : Gives (Session.print .out contents) contents () :=
  ⟨rfl, printed_print .out contents⟩

theorem print_err (contents : List Print) : Gives (Session.print .err contents) [] () :=
  ⟨rfl, printed_print_of_ne .out (by decide) contents⟩

theorem mapM {out : α → List Print} {as : List α} {bs : List β}
    (h : List.Forall₂ (fun a b ↦ Gives (f a) (out a) b) as bs) :
    Gives (as.mapM f) (as.flatMap out) bs := by
  induction h with
  | nil => exact pure []
  | cons ha _ ih =>
      rw [List.mapM_cons, List.flatMap_cons]
      refine ha.bind ?_
      rw [← List.append_nil (List.flatMap out _)]
      exact ih.bind (pure _)

theorem forM {f : α → Session PUnit} {out : α → List Print} {as : List α}
    (h : ∀ a ∈ as, Gives (f a) (out a) ()) : Gives (as.forM f) (as.flatMap out) () := by
  induction as with
  | nil => exact pure ()
  | cons a as ih =>
      obtain ⟨ha, has⟩ := List.forall_mem_cons.mp h
      rw [List.forM, List.flatMap_cons]
      exact ha.bind (ih has)

end Gives

/-! ### What a session shows -/

theorem mem_prints_iff {content : Print} {s : Session α} :
    content ∈ s.prints ↔ ∃ channel, .print channel content ∈ s.events := by
  rw [prints, List.mem_filterMap]
  constructor
  · rintro ⟨event, hevent, h⟩
    cases event with
    | print channel _ =>
        cases h
        exact ⟨channel, hevent⟩
    | log entry => cases h
  · rintro ⟨channel, h⟩
    exact ⟨_, h, rfl⟩

theorem out_subset_prints (s : Session α) : s.out ⊆ s.prints := by
  intro content hcontent
  obtain ⟨event, hevent, h⟩ := List.mem_filterMap.mp hcontent
  cases event with
  | print channel _ =>
      dsimp only at h
      split at h
      · cases h
        exact mem_prints_iff.mpr ⟨channel, hevent⟩
      · cases h
  | log entry => cases h

def Shows (s : Session α) (P : Print → Prop) : Prop := ∀ content ∈ s.prints, P content

namespace Shows

variable {P : Print → Prop}

theorem mono {Q : Print → Prop} (h : Shows x P) (hpq : ∀ content, P content → Q content) :
    Shows x Q :=
  fun content hcontent ↦ hpq content (h content hcontent)

theorem pure (a : α) : Shows (Pure.pure a) P := List.forall_mem_nil _

theorem quiet (x : Except Stop α) : Shows (Session.quiet x) P := List.forall_mem_nil _

theorem bind (hx : Shows x P) (hf : ∀ a, x.result = .ok a → Shows (f a) P) :
    Shows (x >>= f) P := by
  cases h : x.result with
  | error stop =>
      rw [bind_of_error h]
      exact hx
  | ok a =>
      rw [bind_of_ok h]
      intro content hcontent
      obtain ⟨channel, hevent⟩ := mem_prints_iff.mp hcontent
      rcases List.mem_append.mp hevent with hevent | hevent
      · exact hx content (mem_prints_iff.mpr ⟨channel, hevent⟩)
      · exact hf a h content (mem_prints_iff.mpr ⟨channel, hevent⟩)

theorem log (entries : List Log.Entry) : Shows (Session.log entries) P := by
  intro content hcontent
  obtain ⟨channel, hevent⟩ := mem_prints_iff.mp hcontent
  obtain ⟨entry, -, ⟨⟩⟩ := List.mem_map.mp hevent

theorem print {channel : Channel} {contents : List Print} (h : ∀ content ∈ contents, P content) :
    Shows (Session.print channel contents) P := by
  intro content hcontent
  obtain ⟨_, hevent⟩ := mem_prints_iff.mp hcontent
  obtain ⟨_, hmem, ⟨⟩⟩ := List.mem_map.mp hevent
  exact h content hmem

theorem mapM {as : List α} (h : ∀ a ∈ as, Shows (f a) P) : Shows (as.mapM f) P := by
  induction as with
  | nil => exact pure []
  | cons a as ih =>
      obtain ⟨ha, has⟩ := List.forall_mem_cons.mp h
      rw [List.mapM_cons]
      exact ha.bind fun b _ ↦ (ih has).bind fun bs _ ↦ pure _

theorem forM {f : α → Session PUnit} {as : List α} (h : ∀ a ∈ as, Shows (f a) P) :
    Shows (as.forM f) P := by
  induction as with
  | nil => exact pure ()
  | cons a as ih =>
      obtain ⟨ha, has⟩ := List.forall_mem_cons.mp h
      rw [List.forM]
      exact ha.bind fun _ _ ↦ ih has

end Shows

/-! ### Streams -/

inductive Refuses (streams : Streams) : Event → Stop → Prop
  | print {channel : Channel} {content : Print} (h : streams channel content = false) :
      Refuses streams (.print channel content) (.unprinted channel content)

def Taken (streams : Streams) (s : Session α) : Prop :=
  ∀ e ∈ s.events, ∀ stop, ¬ Refuses streams e stop

variable {streams : Streams} {s : Session α} {stop : Stop}

theorem refusal?_eq_some_iff {e : Event} :
    refusal? streams e = some stop ↔ Refuses streams e stop := by
  constructor
  · intro h
    cases e with
    | print channel content =>
        rw [refusal?] at h
        split at h
        · cases h
        · next hrefused =>
          rw [← Option.some.inj h]
          exact .print ((Bool.not_eq_true _).mp hrefused)
    | log entry => cases h
  · intro h
    cases h with
    | print hrefused => rw [refusal?, hrefused, if_neg Bool.false_ne_true]

theorem refusal?_eq_none_iff {e : Event} :
    refusal? streams e = none ↔ ∀ stop, ¬ Refuses streams e stop := by
  simp only [Option.eq_none_iff_forall_ne_some, ne_eq, refusal?_eq_some_iff]

theorem findSome?_refusal?_eq_none_iff :
    s.events.findSome? (refusal? streams) = none ↔ s.Taken streams := by
  simp only [List.findSome?_eq_none_iff, refusal?_eq_none_iff, Taken]

/-- Streams that take everything have no influence. -/
theorem play_of_taken (h : s.Taken streams) : s.play streams = s := by
  rw [play, findSome?_refusal?_eq_none_iff.mpr h]

/-- A session stops where the streams refuse something first, or where it stops by itself. -/
theorem result_play_eq_error_iff :
    (s.play streams).result = .error stop ↔
      (∃ e, FirstAt (Refuses streams) s.events e stop) ∨
        s.Taken streams ∧ s.result = .error stop := by
  have hfirst : s.events.findSome? (refusal? streams) = some stop ↔
      ∃ e, FirstAt (Refuses streams) s.events e stop := by
    simp only [List.findSome?_eq_some_iff, FirstAt, refusal?_eq_some_iff, refusal?_eq_none_iff]
    constructor
    · rintro ⟨before, e, after, hevents, hrefuses, hbefore⟩
      exact ⟨e, before, after, hevents, hbefore, hrefuses⟩
    · rintro ⟨e, before, after, hevents, hbefore, hrefuses⟩
      exact ⟨before, e, after, hevents, hrefuses, hbefore⟩
  rw [← hfirst, ← findSome?_refusal?_eq_none_iff, play]
  split
  · next hnone => simp [hnone]
  · next stop' hsome => simp [hsome]

/-- A refusal cuts a session off, and changes nothing before. -/
theorem isPrefix_events_play (streams : Streams) (s : Session α) :
    (s.play streams).events <+: s.events := by
  unfold play
  split
  · exact List.prefix_refl _
  · exact List.takeWhile_prefix _

theorem isPrefix_prints_play (streams : Streams) (s : Session α) :
    (s.play streams).prints <+: s.prints :=
  (isPrefix_events_play streams s).filterMap _

end Session

end CallAudit
