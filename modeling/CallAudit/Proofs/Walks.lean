import CallAudit.Audit.Walk
import CallAudit.Proofs.Subtrees

/-!
# What a walk finds

A visit reads a finding off a place, without regard to the run, and enters it into the run.  A walk
is therefore the list of the findings below a place, in preorder, entered one after the other, and
it fails at the first place that has none.
-/

namespace CallAudit

namespace Registry

theorem lookup_cons_eq_ite (x n : Text) (count : Int) (rest : List (Text × Int)) :
    ((n, count) :: rest).lookup x = if x = n then some count else rest.lookup x := by
  rw [List.lookup_cons]
  by_cases hx : x = n
  · simp [hx]
  · rw [beq_false_of_ne hx, if_neg hx]

theorem lookup_addTo (name x : Text) (amount : Int) (entries : List (Text × Int)) :
    (addTo name amount entries).lookup x =
      if x = name then some ((entries.lookup name).getD 0 + amount) else entries.lookup x := by
  induction entries with
  | nil => simp [addTo, lookup_cons_eq_ite]
  | cons entry rest ih =>
      obtain ⟨n, count⟩ := entry
      by_cases hn : n = name
      · subst hn
        by_cases hx : x = n <;> simp [addTo, lookup_cons_eq_ite, hx]
      · have hname : name ≠ n := Ne.symm hn
        by_cases hx : x = n
        · subst hx
          simp [addTo, hn]
        · simp [addTo, lookup_cons_eq_ite, hn, hname, hx, ih]

theorem count?_record (r : Registry) (name x : Text) :
    (r.record name).count? x = if x = name then some ((r.count? name).getD 0 + 1) else r.count? x :=
  lookup_addTo name x 1 r.entries

/-- Recording names one after the other counts each of them as often as it occurs. -/
theorem count?_foldl_record (names : List Text) (r : Registry) (x : Text) :
    (names.foldl record r).count? x =
      if x ∈ names then some ((r.count? x).getD 0 + names.count x) else r.count? x := by
  induction names generalizing r with
  | nil => simp
  | cons name names ih =>
      rw [List.foldl_cons, ih, count?_record]
      by_cases hx : x = name
      · subst hx
        by_cases hmem : x ∈ names
        · simp only [if_pos hmem, if_true, List.mem_cons_self, Option.getD_some,
            List.count_cons_self]
          congr 1
          omega
        · simp [hmem, List.count_eq_zero_of_not_mem hmem]
      · have hcount : (name :: names).count x = names.count x := List.count_cons_of_ne (Ne.symm hx)
        simp [hx, hcount]

end Registry

namespace Run

open Node (Failure Mark Target)

variable {ι : Type}

@[simp] theorem registerAll_nil (r : Run ι) : r.registerAll [] = r := rfl

theorem registerAll_append (r : Run ι) (calls more : List Sighting) :
    r.registerAll (calls ++ more) = (r.registerAll calls).registerAll more := List.foldl_append

/-- Registering calls counts their names. -/
theorem registry_registerAll (r : Run ι) (calls : List Sighting) :
    (r.registerAll calls).registry = (calls.map Sighting.name).foldl Registry.record
      r.registry := by
  induction calls generalizing r with
  | nil => rfl
  | cons call calls ih => exact ih (r.register call)

theorem violations_registerAll (r : Run ι) (calls : List Sighting) :
    r.violations <+: (r.registerAll calls).violations := by
  induction calls generalizing r with
  | nil => exact List.prefix_refl _
  | cons call calls ih => exact (List.prefix_append _ _).trans (ih (r.register call))

/-- A run has seen only violations that are on its list. -/
theorem seen_subset_register {r : Run ι} (hseen : r.seen ⊆ r.violations) (call : Sighting) :
    (r.register call).seen ⊆ (r.register call).violations := by
  intro v hv
  unfold register at hv ⊢
  simp only at hv ⊢
  split at hv
  · rcases List.mem_append.mp hv with hv | hv
    · exact List.mem_append_left _ (hseen hv)
    · exact List.mem_append_right _ hv
  · exact List.mem_append_left _ (hseen hv)

/-- Deduplication drops a violation only where an equal one is on the list. -/
theorem mem_violations_register {r : Run ι} (hseen : r.seen ⊆ r.violations) {call : Sighting}
    (h : r.forbidden.contains call.name = true) : call ∈ (r.register call).violations := by
  unfold register newViolation?
  cases hdrop : r.dedupe && decide (call ∈ r.seen) with
  | true =>
      have hmem : call ∈ r.seen := of_decide_eq_true (Bool.and_eq_true_iff.mp hdrop).2
      exact List.mem_append_left _ (hseen hmem)
  | false =>
      rw [h]
      exact List.mem_append_right _ (by simp)

/-- Every registered call of a forbidden name is a violation, with and without deduplication. -/
theorem mem_violations_registerAll {r : Run ι} (hseen : r.seen ⊆ r.violations)
    {calls : List Sighting} {call : Sighting} (hmem : call ∈ calls)
    (h : r.forbidden.contains call.name = true) :
    call ∈ (r.registerAll calls).violations := by
  induction calls generalizing r with
  | nil => simp at hmem
  | cons first calls ih =>
      rcases List.mem_cons.mp hmem with rfl | hmem
      · exact (violations_registerAll (r.register call) calls).subset
          (mem_violations_register hseen h)
      · exact ih (seen_subset_register hseen first) hmem h

/-! ### Findings -/

/-- What is read off a place: the calls it stands for, and the variables and functions it
declares. -/
structure Finding (ι : Type) where
  calls : List Sighting
  declared : List (Mark ι)
  functions : List Sighting

namespace Finding

def none : Finding ι := ⟨[], [], []⟩

def ofTargets (targets : List (Target ι)) : Finding ι := ⟨targets.map sighting, [], []⟩

def joined (findings : List (Finding ι)) : Finding ι :=
  ⟨findings.flatMap calls, findings.flatMap declared, findings.flatMap functions⟩

end Finding

def finding (p : Place (Mark ι)) : Except Failure (Finding ι) :=
  match Node.kind p.tree with
  | .var =>
    .ok (if (p.tree.children.head?.map Node.kind) = some .name then ⟨[], [p.tree.label], []⟩
      else .none)
  | .call | .new => ((Node.callTargets p).map .ofTargets).mapError .malformed
  | .assign _ => ((Node.assignmentTargets p.tree).map .ofTargets).mapError .malformed
  | .function => (Node.declaredName p).map fun name? ↦
    ⟨[], [], (name?.filter (!·.isEmpty)).toList.map fun name ↦ ⟨name, p.tree.label.position⟩⟩
  | _ => .ok .none

/-- Enters a finding: the calls are registered one after the other, the declarations come last. -/
def enter (r : Run ι) (f : Finding ι) : Run ι :=
  { r.registerAll f.calls with
    declared := r.declared ++ f.declared, functions := r.functions ++ f.functions }

@[simp] theorem declared_registerAll (r : Run ι) (calls : List Sighting) :
    (r.registerAll calls).declared = r.declared := by
  induction calls generalizing r with
  | nil => rfl
  | cons call calls ih => exact ih (r.register call)

@[simp] theorem functions_registerAll (r : Run ι) (calls : List Sighting) :
    (r.registerAll calls).functions = r.functions := by
  induction calls generalizing r with
  | nil => rfl
  | cons call calls ih => exact ih (r.register call)

theorem registerAll_eq_enter (r : Run ι) (calls : List Sighting) :
    r.registerAll calls = r.enter ⟨calls, [], []⟩ := by
  unfold enter
  rw [List.append_nil, List.append_nil, ← declared_registerAll r calls,
    ← functions_registerAll r calls]

@[simp] theorem enter_none (r : Run ι) : r.enter .none = r := (registerAll_eq_enter r []).symm

/-- Registering targets is entering the finding that they make. -/
theorem registerTargets_eq (r : Run ι) (targets : Except Node.Malformed (List (Target ι))) :
    r.registerTargets targets =
      ((targets.map Finding.ofTargets).mapError .malformed).map r.enter := by
  cases targets with
  | error e => rfl
  | ok ts => exact congrArg Except.ok (registerAll_eq_enter r (ts.map sighting))

/-- A visit enters what its place says. -/
theorem visit_eq (r : Run ι) (p : Place (Mark ι)) : r.visit p = (finding p).map r.enter := by
  cases hkind : Node.kind p.tree with
  | var =>
      simp only [visit, finding, hkind]
      split
      · exact congrArg Except.ok (by simp [enter, declareVariable])
      · exact congrArg Except.ok (enter_none r).symm
  | call | new | assign operator =>
      simp only [visit, finding, hkind]
      exact registerTargets_eq r _
  | function =>
      simp only [visit, finding, hkind]
      cases Node.declaredName p with
      | error e => rfl
      | ok name? =>
          cases name? with
          | none => exact congrArg Except.ok (enter_none r).symm
          | some name =>
              by_cases hname : name.isEmpty = true
              · exact congrArg Except.ok (by simp [enter, Option.filter, hname])
              · exact congrArg Except.ok (by simp [enter, Option.filter, hname, declareFunction])
  | _ =>
      simp only [visit, finding, hkind]
      exact congrArg Except.ok (enter_none r).symm

/-- Declarations do not affect the registration of calls. -/
theorem registerAll_with (r : Run ι) (declared : List (Mark ι)) (functions calls : List Sighting) :
    { r with declared, functions }.registerAll calls =
      { r.registerAll calls with declared, functions } := by
  induction calls generalizing r with
  | nil => rfl
  | cons call calls ih => exact ih (r.register call)

/-- Findings entered one after the other are entered as one. -/
theorem foldl_enter (r : Run ι) (fs : List (Finding ι)) :
    fs.foldl enter r = r.enter (.joined fs) := by
  induction fs generalizing r with
  | nil => exact (enter_none r).symm
  | cons f fs ih =>
      rw [List.foldl_cons, ih]
      simp only [enter, Finding.joined, List.flatMap_cons, registerAll_append, List.append_assoc,
        registerAll_with]

/-- The run after visiting the places that a stack leads to. -/
theorem walkFrom_eq (r : Run ι) (stack : List (Place (Mark ι))) :
    r.walkFrom stack = ((Place.visits stack).mapM finding).map fun fs ↦ fs.foldl enter r := by
  fun_induction walkFrom r stack with
  | case1 r =>
      rw [Place.visits]
      rfl
  | case2 r p stack ih =>
      rw [Place.visits_cons, List.mapM_cons, visit_eq]
      cases finding p with
      | error e => rfl
      | ok f =>
          simp only [Except.map, bind, Except.bind]
          rw [ih (r.enter f)]
          cases (Place.visits (p.children ++ stack)).mapM finding with
          | error e => rfl
          | ok fs => rfl

/-- A walk enters the findings below its place, all at once. -/
theorem walk_eq (r : Run ι) (p : Place (Mark ι)) :
    r.walk p = (p.below.mapM finding).map fun fs ↦ r.enter (.joined fs) := by
  simp only [walk, walkFrom_eq, foldl_enter, Place.below]

/-- If every place below says something, a walk finishes, and it has entered what they say. -/
theorem exists_walk_eq_ok (r : Run ι) {p : Place (Mark ι)}
    (h : ∀ q ∈ p.below, ∃ f, finding q = .ok f) :
    ∃ fs, p.below.mapM finding = .ok fs ∧ r.walk p = .ok (r.enter (.joined fs)) := by
  obtain ⟨fs, hfs⟩ : ∃ fs, p.below.mapM finding = .ok fs := by
    generalize p.below = qs at h
    induction qs with
    | nil => exact ⟨[], rfl⟩
    | cons q qs ih =>
        obtain ⟨f, hf⟩ := h q List.mem_cons_self
        obtain ⟨fs, hfs⟩ := ih fun q hq ↦ h q (List.mem_cons_of_mem _ hq)
        exact ⟨f :: fs, by rw [List.mapM_cons, hf, hfs]; rfl⟩
  exact ⟨fs, hfs, by rw [walk_eq, hfs]; rfl⟩

theorem mem_of_mapM_finding {qs : List (Place (Mark ι))} {fs : List (Finding ι)}
    (h : qs.mapM finding = .ok fs) {q : Place (Mark ι)} (hq : q ∈ qs) :
    ∃ f ∈ fs, finding q = .ok f := by
  induction qs generalizing fs with
  | nil => simp at hq
  | cons first qs ih =>
      rw [List.mapM_cons] at h
      cases hfirst : finding first with
      | error e => simp [hfirst, bind, Except.bind] at h
      | ok f =>
          cases hrest : qs.mapM finding with
          | error e => simp [hfirst, hrest, bind, Except.bind] at h
          | ok rest =>
              obtain rfl : f :: rest = fs := by
                simpa [hfirst, hrest, bind, Except.bind, pure, Except.pure] using h
              rcases List.mem_cons.mp hq with rfl | hq
              · exact ⟨f, List.mem_cons_self, hfirst⟩
              · obtain ⟨g, hg, hgq⟩ := ih hrest hq
                exact ⟨g, List.mem_cons_of_mem f hg, hgq⟩

end Run

end CallAudit
