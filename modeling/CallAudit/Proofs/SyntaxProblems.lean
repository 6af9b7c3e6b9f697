import CallAudit.Concrete.Problem
import CallAudit.Proofs.RecursiveWalk
import Mathlib.Data.List.Sort

/-!
# Syntax problems

The search for problems goes down only where the grammar has marked a node as faulty, and stops at
errors.  If the marks are right, it still finds everything: there is one problem for every missing
node and for every error, except for those that are below an error.  They are sorted by line and
column, and problems at one position keep the order of the tree.

Whatever the marks are, a source has a problem exactly if its root is marked.
-/

namespace CallAudit

namespace Problem

theorem noLater_iff {p q : Problem} :
    p.noLater q = true ↔ p.line < q.line ∨ p.line = q.line ∧ p.column ≤ q.column := by
  simp [noLater]

theorem noLater_trans (p q r : Problem) (hpq : p.noLater q = true) (hqr : q.noLater r = true) :
    p.noLater r = true := by
  rw [noLater_iff] at *
  omega

/-- Any two problems can be put in order. -/
theorem noLater_total (p q : Problem) : (p.noLater q || q.noLater p) = true := by
  rw [Bool.or_eq_true, noLater_iff, noLater_iff]
  omega

def isAt (line column : Nat) (p : Problem) : Bool := p.line == line && p.column == column

theorem isAt_iff {line column : Nat} {p : Problem} :
    p.isAt line column = true ↔ p.line = line ∧ p.column = column := by
  simp [isAt]

/-- Sorting leaves the problems at one position in their order. -/
theorem filter_isAt_mergeSort (line column : Nat) (ps : List Problem) :
    (ps.mergeSort noLater).filter (isAt line column) = ps.filter (isAt line column) := by
  have hties : (ps.filter (isAt line column)).Pairwise fun p q ↦ p.noLater q = true := by
    apply List.pairwise_of_forall_mem_list
    intro p hp q hq
    have hp := isAt_iff.mp (List.mem_filter.mp hp).2
    have hq := isAt_iff.mp (List.mem_filter.mp hq).2
    rw [noLater_iff]
    omega
  -- the ties are a sublist of the sorted list, and there are no others in it
  have hsublist :=
    (List.sublist_mergeSort noLater_trans noLater_total hties List.filter_sublist).filter
      (isAt line column)
  rw [List.filter_filter, List.filter_congr fun p _ ↦ Bool.and_self _] at hsublist
  exact (hsublist.eq_of_length ((List.mergeSort_perm ps noLater).filter _).length_eq.symm).symm

end Problem

namespace Place

variable {α : Type}

mutual

theorem suffix_ancestors_of_mem_preorderAt {q : Place α} {following ancestors : List (Tree α)} :
    ∀ {t : Tree α}, q ∈ preorderAt following ancestors t → ancestors <:+ q.ancestors
  | .node a children, h => by
      rcases List.mem_cons.mp h with rfl | h
      · exact List.suffix_refl _
      · exact (List.suffix_cons _ _).trans (suffix_ancestors_of_mem_preordersBelow h)

theorem suffix_ancestors_of_mem_preordersBelow {q : Place α} {ancestors : List (Tree α)} :
    ∀ {ts : List (Tree α)}, q ∈ preordersBelow ancestors ts → ancestors <:+ q.ancestors
  | t :: ts, h => by
      rcases List.mem_append.mp h with h | h
      · exact suffix_ancestors_of_mem_preorderAt h
      · exact suffix_ancestors_of_mem_preordersBelow h

end

theorem mem_ancestors_of_mem_descendants {p q : Place α} (h : q ∈ p.descendants) :
    p.tree ∈ q.ancestors :=
  (suffix_ancestors_of_mem_preordersBelow h).subset List.mem_cons_self

end Place

namespace Concrete

/-- An error that was not supplied by error recovery. -/
def isError (t : Concrete) : Bool := !t.label.missing && t.kind == .error

def isFlaw (t : Concrete) : Bool := t.label.missing || t.kind == .error

/-- A node is marked as faulty exactly if it is a flaw or holds one. -/
def TrulyMarked (t : Concrete) : Prop :=
  ∀ s ∈ t.subtrees, s.label.faulty = true ↔ ∃ r ∈ s.subtrees, isFlaw r = true

instance (t : Concrete) : Decidable t.TrulyMarked :=
  inferInstanceAs (Decidable (∀ s ∈ t.subtrees, s.label.faulty = true ↔
    ∃ r ∈ s.subtrees, isFlaw r = true))

/-- A missing node or an error, and not below an error. -/
def isReported (p : Place Mark) : Bool := isFlaw p.tree && !p.ancestors.any isError

def flawMessage (t : Concrete) : Text :=
  if t.label.missing then Text.concat ["missing ", [.apostrophe], t.kind.name, [.apostrophe]]
  else Text.concat ["syntax error near ", Text.quoted (snippet t)]

def flawProblem (file : Text) (t : Concrete) : Problem :=
  { file, line := t.label.row + 1, column := t.label.column + 1, message := flawMessage t }

def reports (file : Text) (ps : List (Place Mark)) : List Problem :=
  (ps.filter isReported).map fun p ↦ flawProblem file p.tree

section

variable {file : Text}

theorem reports_cons (p : Place Mark) (ps : List (Place Mark)) :
    reports file (p :: ps) = (if isReported p then [flawProblem file p.tree] else []) ++
      reports file ps := by
  unfold reports
  rw [List.filter_cons]
  split <;> rfl

theorem reports_append (ps qs : List (Place Mark)) :
    reports file (ps ++ qs) = reports file ps ++ reports file qs := by
  simp [reports]

theorem reports_eq_nil_iff {ps : List (Place Mark)} :
    reports file ps = [] ↔ ∀ p ∈ ps, isReported p = false := by
  simp [reports]

theorem ownProblem?_eq (t : Concrete) :
    ownProblem? file t = if isFlaw t then some (flawProblem file t) else none := by
  unfold ownProblem? isFlaw flawProblem flawMessage
  by_cases hmissing : t.label.missing = true
  · simp [hmissing, problemAt, line]
  · by_cases herror : t.kind = .error
    · simp [hmissing, herror, problemAt, line]
    · simp [hmissing, herror]

theorem isReported_eq {p : Place Mark} (hopen : p.ancestors.any isError = false) :
    isReported p = isFlaw p.tree := by
  simp [isReported, hopen]

theorem suspects_eq (t : Concrete) :
    t.suspects = if isError t then [] else if t.label.faulty then t.children else [] := rfl

/-- Nothing is reported below an error. -/
theorem reports_descendants_of_isError {p : Place Mark} (h : isError p.tree = true) :
    reports file p.descendants = [] := by
  rw [reports_eq_nil_iff]
  intro q hq
  have hany : q.ancestors.any isError = true :=
    List.any_eq_true.mpr ⟨p.tree, Place.mem_ancestors_of_mem_descendants hq, h⟩
  simp [isReported, hany]

theorem TrulyMarked.isFlaw_eq_false {t s : Concrete} (h : t.TrulyMarked)
    (hfaulty : t.label.faulty = false) (hs : s ∈ t.subtrees) : isFlaw s = false := by
  rw [← Bool.not_eq_true]
  intro hflaw
  rw [(h t (Tree.mem_subtrees_self t)).mpr ⟨s, hs, hflaw⟩] at hfaulty
  cases hfaulty

/-- Nothing is to be reported below a node that is rightly not marked. -/
theorem reports_descendants_of_not_faulty {p : Place Mark} (hmarked : TrulyMarked p.tree)
    (hfaulty : p.tree.label.faulty = false) : reports file p.descendants = [] := by
  rw [reports_eq_nil_iff]
  intro q hq
  rw [← Place.below_eq_descendants] at hq
  have hmem := Tree.mem_subtrees_of_mem_descendants (Place.tree_mem_descendants hq)
  simp [isReported, hmarked.isFlaw_eq_false hfaulty hmem]

theorem TrulyMarked.of_mem_children {t c : Concrete} (h : t.TrulyMarked) (hc : c ∈ t.children) :
    TrulyMarked c := by
  intro s hs
  exact h s (Tree.mem_subtrees_trans hs (Tree.mem_subtrees_of_mem_children hc))

/-- Searching the tree of a place yields the reports of the place and those below it, before the
rest of the stack. -/
def FindsReports (file : Text) (p : Place Mark) : Prop :=
  ∀ stack, problemsFrom file (p.tree :: stack) = reports file p.preorder ++ problemsFrom file stack

/-- Searching a list of places yields their reports one after the other. -/
theorem problemsFrom_of_findsReports {ps : List (Place Mark)} (h : ∀ p ∈ ps, FindsReports file p)
    (stack : List Concrete) :
    problemsFrom file (ps.map Place.tree ++ stack) =
      reports file (ps.flatMap Place.preorder) ++ problemsFrom file stack := by
  induction ps with
  | nil => rfl
  | cons p ps ih =>
      obtain ⟨hp, hps⟩ := List.forall_mem_cons.mp h
      rw [List.map_cons, List.cons_append, hp, ih hps, List.flatMap_cons, reports_append,
        List.append_assoc]

theorem mem_children_cases {p o : Place Mark} (h : o ∈ p.children) :
    o.tree ∈ p.tree.children ∧ o.ancestors = p.tree :: p.ancestors := by
  obtain ⟨hancestors, hsuffix⟩ := Place.mem_siblings h
  exact ⟨hsuffix.subset List.mem_cons_self, hancestors⟩

/-- The search of a tree finds what is to be reported in it: an error hides what is below it, and
nothing is below a node that is not marked. -/
theorem findsReports {p : Place Mark} (hmarked : TrulyMarked p.tree)
    (hopen : p.ancestors.any isError = false) :
    FindsReports file p := by
  obtain ⟨t, following, ancestors⟩ := p
  induction t using Tree.induction generalizing following ancestors with
  | node m cs ih =>
      intro stack
      rw [problemsFrom, Place.preorder_eq, reports_cons, isReported_eq hopen, ownProblem?_eq,
        List.append_assoc, suspects_eq]
      congr 1
      · split <;> rfl
      · by_cases herror : isError (.node m cs) = true
        · rw [if_pos herror, reports_descendants_of_isError herror]
          rfl
        · rw [if_neg herror]
          split
          · -- the places of the children are below no error either
            rw [← Place.flatMap_preorder_children, ← problemsFrom_of_findsReports,
              Place.map_tree_children]
            intro o ho
            obtain ⟨hmem, hancestors⟩ := mem_children_cases ho
            refine ih o.tree hmem o.following o.ancestors (hmarked.of_mem_children hmem) ?_
            simp [hancestors, herror, hopen]
          · next hfaulty =>
            rw [reports_descendants_of_not_faulty hmarked (Bool.eq_false_of_not_eq_true hfaulty)]
            rfl

/-- The first flaw on a way down is reported. -/
theorem exists_isReported {p : Place Mark} (hopen : p.ancestors.any isError = false)
    (h : ∃ r ∈ p.tree.subtrees, isFlaw r = true) : ∃ q ∈ p.preorder, isReported q = true := by
  obtain ⟨t, following, ancestors⟩ := p
  induction t using Tree.induction generalizing following ancestors with
  | node m cs ih =>
      rw [Place.preorder_eq]
      by_cases hflaw : isFlaw (.node m cs) = true
      · exact ⟨_, List.mem_cons_self, (isReported_eq hopen).trans hflaw⟩
      · obtain ⟨r, hr, hrflaw⟩ := h
        rcases Tree.mem_subtrees_iff.mp hr with rfl | ⟨c, hc, hr⟩
        · exact absurd hrflaw hflaw
        · rw [← Place.map_tree_children ⟨.node m cs, following, ancestors⟩] at hc
          obtain ⟨o, ho, rfl⟩ := List.mem_map.mp hc
          obtain ⟨hmem, hancestors⟩ := mem_children_cases ho
          have herror : isError (.node m cs) = false := by
            simp_all [isError, isFlaw]
          have hopen' : o.ancestors.any isError = false := by
            simp [hancestors, herror, hopen]
          obtain ⟨q, hq, hreported⟩ := ih o.tree hmem o.following o.ancestors hopen' ⟨r, hr, hrflaw⟩
          refine ⟨q, List.mem_cons_of_mem _ ?_, hreported⟩
          rw [← Place.flatMap_preorder_children]
          exact List.mem_flatMap.mpr ⟨o, ho, hq⟩

end

/-- A marked root always has a problem, be it only the general one. -/
theorem problems_eq_nil_iff {file : Text} {t : Concrete} :
    problems file t = [] ↔ t.label.faulty = false := by
  unfold problems
  cases t.label.faulty with
  | false => simp
  | true =>
      rw [if_pos rfl, ← List.length_eq_zero_iff, List.length_mergeSort, List.length_eq_zero_iff]
      split
      · simp
      · next h => simpa using h

/-- With right marks, the problems are those of the places to be reported, sorted. -/
theorem problems_eq_mergeSort {t : Concrete} (hmarked : t.TrulyMarked) (file : Text) :
    problems file t = (reports file (Place.root t).preorder).mergeSort Problem.noLater := by
  cases hfaulty : t.label.faulty with
  | false =>
      have hnone : reports file (Place.root t).preorder = [] := by
        have hflaw : isFlaw t = false := hmarked.isFlaw_eq_false hfaulty (Tree.mem_subtrees_self t)
        rw [Place.preorder_eq, reports_cons, reports_descendants_of_not_faulty hmarked hfaulty]
        simp [isReported, Place.root, hflaw]
      rw [problems_eq_nil_iff.mpr hfaulty, hnone, List.mergeSort_nil]
  | true =>
      have hfound : problemsFrom file [t] = reports file (Place.root t).preorder := by
        rw [← List.append_nil (reports _ _), ← problemsFrom]
        exact findsReports (p := .root t) hmarked List.any_nil []
      have hflaw := (hmarked t (Tree.mem_subtrees_self t)).mp hfaulty
      obtain ⟨q, hq, hreported⟩ := exists_isReported (p := .root t) List.any_nil hflaw
      have hsome : (reports file (Place.root t).preorder).isEmpty = false := by
        rw [List.isEmpty_eq_false_iff, Ne, reports_eq_nil_iff]
        intro hall
        rw [hall q hq] at hreported
        cases hreported
      simp [problems, hfaulty, hfound, hsome]

/-- If the grammar's marks are right, the problems are exactly those of the missing nodes and errors
that are not below an error, each at the start of its node, in the order of their positions and at
one position in the order of the tree.  With any marks, there are none exactly if the root is not
marked. -/
theorem problems_complete (file : Text) (t : Concrete) :
    (t.TrulyMarked →
      (problems file t).Perm (reports file (Place.root t).preorder) ∧
      (problems file t).Pairwise (fun p q ↦ p.line < q.line ∨ p.line = q.line ∧
        p.column ≤ q.column) ∧
      ∀ line column, (problems file t).filter (Problem.isAt line column) =
        (reports file (Place.root t).preorder).filter (Problem.isAt line column)) ∧
    (problems file t = [] ↔ t.label.faulty = false) := by
  refine ⟨?_, problems_eq_nil_iff⟩
  intro hmarked
  rw [problems_eq_mergeSort hmarked]
  refine ⟨List.mergeSort_perm _ _, ?_, ?_⟩
  · exact (List.pairwise_mergeSort Problem.noLater_trans Problem.noLater_total _).imp
      Problem.noLater_iff.mp
  · intro line column
    exact Problem.filter_isAt_mergeSort line column _

/-- An error within an error on the second line, and a missing semicolon on the first that comes
after it in the tree. -/
def brokenLines : Concrete :=
  let inner : Concrete := .node ⟨.error, none, true, false, true, [], 1, 1⟩ []
  let outer : Concrete := .node ⟨.error, none, true, false, true, [], 1, 0⟩ [inner]
  let semicolon : Concrete := .node ⟨.other ";", none, false, true, true, [], 0, 3⟩ []
  .node ⟨.program, none, true, false, true, [], 0, 0⟩ [outer, semicolon]

theorem problems_complete_brokenLines :
    brokenLines.TrulyMarked ∧
      ((problems "t.js" brokenLines).map fun p ↦ (p.line, p.column)).Perm [(2, 1), (1, 4)] ∧
      (problems "t.js" brokenLines).Pairwise
        (fun p q ↦ p.line < q.line ∨ p.line = q.line ∧ p.column ≤ q.column) := by
  have hmarked : brokenLines.TrulyMarked := by decide
  obtain ⟨hperm, hsorted, -⟩ := (problems_complete "t.js" brokenLines).1 hmarked
  exact ⟨hmarked, hperm.map _, hsorted⟩

end Concrete

end CallAudit
