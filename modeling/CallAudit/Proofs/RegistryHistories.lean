import CallAudit.Proofs.Batches
import Mathlib.Logic.Function.Basic

/-!
# Registries and their histories

Several registries are used side by side: names are recorded in them, one is merged into another or
into itself, and a registry is made of several others.  Each has a history, the list of the names
that were recorded in it, where merging hands over the whole history of the other registry.  A
registry holds what can be told from its history, the distinct names in the order of first sight
with the number of their occurrences.

A registry does not hold counts but records, and a record can be changed by everyone who holds it.
The records are therefore numbered and kept in a ledger, and a registry is a list of numbers.
Registries stay apart because merging makes a record of its own for a name that is new.  A registry
can be merged into itself because the record that is raised is the one that was just read.
-/

namespace CallAudit

namespace Registry

/-- The distinct names of a list in the order of first sight, each with the number of its
occurrences. -/
def tally (names : List Text) : List (Text × Int) :=
  names.eraseDups.map fun name ↦ (name, (names.count name : Int))

theorem addTo_map_of_mem {name : Text} {names : List Text} (hnodup : names.Nodup) (h : name ∈ names)
    (amount : Int) (count : Text → Int) :
    addTo name amount (names.map fun n ↦ (n, count n)) =
      names.map fun n ↦ (n, if n = name then count n + amount else count n) := by
  induction names with
  | nil => simp at h
  | cons n names ih =>
      obtain ⟨hn, hnames⟩ := List.nodup_cons.mp hnodup
      rw [List.map_cons, addTo, List.map_cons]
      by_cases hname : n = name
      · subst hname
        rw [if_pos rfl, if_pos rfl]
        congr 1
        apply List.map_congr_left
        intro m hm
        rw [if_neg]
        rintro rfl
        exact hn hm
      · rw [if_neg hname, if_neg hname,
          ih hnames ((List.mem_cons.mp h).resolve_left (Ne.symm hname))]

theorem addTo_of_not_mem {name : Text} {entries : List (Text × Int)}
    (h : name ∉ entries.map Prod.fst) (amount : Int) :
    addTo name amount entries = entries ++ [(name, amount)] := by
  induction entries with
  | nil => rfl
  | cons entry entries ih =>
      obtain ⟨n, count⟩ := entry
      rw [List.map_cons, List.mem_cons, not_or] at h
      rw [addTo, if_neg (Ne.symm h.1), ih h.2, List.cons_append]

/-- One more occurrence raises the count of a name that was seen, and puts a new name last. -/
theorem addTo_tally (names : List Text) (name : Text) :
    addTo name 1 (tally names) = tally (names ++ [name]) := by
  unfold tally
  rw [eraseDups_concat]
  by_cases h : name ∈ names
  · rw [addTo_map_of_mem (nodup_eraseDups names) (List.mem_eraseDups.mpr h), if_pos h,
      List.append_nil]
    apply List.map_congr_left
    intro n _
    by_cases hn : n = name
    · simp [hn]
    · simp [hn, Ne.symm hn]
  · have hnew : name ∉ (names.eraseDups.map fun n ↦ (n, (names.count n : Int))).map Prod.fst := by
      simpa [Function.comp_def] using h
    rw [addTo_of_not_mem hnew, if_neg h, List.map_append]
    congr 1
    · apply List.map_congr_left
      intro n hn
      have hne : name ≠ n := by
        rintro rfl
        exact h (List.mem_eraseDups.mp hn)
      simp [hne]
    · simp [List.count_eq_zero_of_not_mem h]

theorem entries_foldl_record (names : List Text) :
    (names.foldl record empty).entries = tally names := by
  induction names using List.reverseRecOn with
  | nil => rfl
  | append_singleton names name ih =>
      rw [List.foldl_append, List.foldl_cons, List.foldl_nil, record, add, ih, addTo_tally]

end Registry

/-- A step on registries that are known by keys: a name is recorded, a registry is merged into
another, or a registry is replaced by the merger of several. -/
inductive RegistryStep (κ : Type) where
  | record (target : κ) (name : Text)
  | merge (target other : κ)
  | merged (target : κ) (others : List κ)

namespace RegistryStep

variable {κ : Type}

def target : RegistryStep κ → κ
  | record target _ | merge target _ | merged target _ => target

variable [DecidableEq κ]

def apply (rs : κ → Registry) : RegistryStep κ → κ → Registry
  | record r name => Function.update rs r ((rs r).record name)
  | merge r other => Function.update rs r ((rs r).merge (rs other))
  | merged r others => Function.update rs r (.mergeAll (others.map rs))

def extend (hs : κ → List Text) : RegistryStep κ → κ → List Text
  | record r name => Function.update hs r (hs r ++ [name])
  | merge r other => Function.update hs r (hs r ++ hs other)
  | merged r others => Function.update hs r (others.flatMap hs)

theorem apply_of_ne {step : RegistryStep κ} {r : κ} (h : r ≠ step.target) (rs : κ → Registry) :
    step.apply rs r = rs r := by
  cases step with
  | record target name => exact Function.update_of_ne h _ _
  | merge target other => exact Function.update_of_ne h _ _
  | merged target others => exact Function.update_of_ne h _ _

def registries (steps : List (RegistryStep κ)) : κ → Registry := steps.foldl apply fun _ ↦ .empty

def histories (steps : List (RegistryStep κ)) : κ → List Text := steps.foldl extend fun _ ↦ []

/-- The step: registries that have counted their histories have done so after it. -/
theorem apply_foldl_record (hs : κ → List Text) (step : RegistryStep κ) :
    step.apply (fun r ↦ (hs r).foldl .record .empty) =
      fun r ↦ (step.extend hs r).foldl .record .empty := by
  funext r
  cases step with
  | record target name =>
      by_cases hr : r = target
      · subst hr
        simp [apply, extend]
      · simp [apply, extend, hr]
  | merge target other =>
      by_cases hr : r = target
      · subst hr
        simp [apply, extend, Registry.merge_foldl_record]
      · simp [apply, extend, hr]
  | merged target others =>
      by_cases hr : r = target
      · subst hr
        simp [apply, extend, Registry.mergeAll_foldl_record]
      · simp [apply, extend, hr]

/-- A registry is what recording its history makes. -/
theorem registries_eq (steps : List (RegistryStep κ)) (r : κ) :
    registries steps r = (histories steps r).foldl .record .empty := by
  suffices h : registries steps = fun r ↦ (histories steps r).foldl .record .empty from congrFun h r
  induction steps using List.reverseRecOn with
  | nil => rfl
  | append_singleton steps step ih =>
      rw [registries, histories, List.foldl_append, List.foldl_append, ← registries, ← histories,
        ih]
      exact apply_foldl_record (histories steps) step

end RegistryStep

/-- Records by their numbers: names with counts.  Numbers from `next` on are not in use. -/
structure Ledger where
  next : Nat
  record : Nat → Text × Int

namespace Ledger

def raise (l : Ledger) (k : Nat) (amount : Int) : Ledger :=
  { l with record := Function.update l.record k ((l.record k).1, (l.record k).2 + amount) }

def enter (l : Ledger) (name : Text) (amount : Int) : Ledger :=
  { next := l.next + 1, record := Function.update l.record l.next (name, amount) }

/-- Counts further calls of a name for the holder of the records `mine`: its record of that name is
raised, or it gets a new one. -/
def count (l : Ledger) (mine : List Nat) (name : Text) (amount : Int) : Ledger × List Nat :=
  match mine.find? fun k ↦ (l.record k).1 = name with
  | some k => (l.raise k amount, mine)
  | none => (l.enter name amount, mine ++ [l.next])

/-- Counts what other records say, each of which is read when its turn comes. -/
def absorb (state : Ledger × List Nat) (others : List Nat) : Ledger × List Nat :=
  others.foldl (fun (l, mine) k ↦ l.count mine (l.record k).1 (l.record k).2) state

def view (l : Ledger) (mine : List Nat) : Registry := ⟨mine.map l.record⟩

structure Holds (l : Ledger) (mine : List Nat) : Prop where
  used : ∀ k ∈ mine, k < l.next
  distinct : (mine.map fun k ↦ (l.record k).1).Nodup

/-- What counting for the holder of the records `mine` can do: the holder may get new records, all
others stay as they are, and no record changes its name. -/
structure Counts (before : Ledger × List Nat) (after : Ledger × List Nat) : Prop where
  next_le : before.1.next ≤ after.1.next
  others : ∀ k < before.1.next, k ∉ before.2 → after.1.record k = before.1.record k
  origin : ∀ k ∈ after.2, k ∈ before.2 ∨ before.1.next ≤ k
  holds : after.1.Holds after.2

section

variable {l : Ledger} {mine : List Nat}

theorem Holds.nodup (h : l.Holds mine) : mine.Nodup := h.distinct.of_map _

theorem Holds.eq_of_name_eq (h : l.Holds mine) {j k : Nat} (hj : j ∈ mine) (hk : k ∈ mine)
    (hname : (l.record j).1 = (l.record k).1) : j = k :=
  List.inj_on_of_nodup_map h.distinct hj hk hname

theorem Holds.of_cons {k : Nat} (h : l.Holds (k :: mine)) : l.Holds mine where
  used := fun j hj ↦ h.used j (List.mem_cons_of_mem k hj)
  distinct := (List.nodup_cons.mp h.distinct).2

/-- Only the names and the numbers in use matter for holding records. -/
theorem Holds.congr {l' : Ledger} (h : l.Holds mine) (hnext : l.next ≤ l'.next)
    (hnames : ∀ k ∈ mine, (l'.record k).1 = (l.record k).1) : l'.Holds mine where
  used := fun k hk ↦ Nat.lt_of_lt_of_le (h.used k hk) hnext
  distinct := by
    rw [List.map_congr_left hnames]
    exact h.distinct

theorem view_congr {l' : Ledger} (h : ∀ k ∈ mine, l'.record k = l.record k) :
    l'.view mine = l.view mine :=
  congrArg Registry.mk (List.map_congr_left h)

theorem Counts.refl (h : l.Holds mine) : Counts (l, mine) (l, mine) where
  next_le := Nat.le_refl _
  others := fun _ _ _ ↦ rfl
  origin := fun _ hk ↦ .inl hk
  holds := h

theorem Counts.trans {a b c : Ledger × List Nat} (hab : Counts a b) (hbc : Counts b c) :
    Counts a c where
  next_le := Nat.le_trans hab.next_le hbc.next_le
  others := by
    intro k hk hmine
    have hmine' : k ∉ b.2 := by
      intro hb
      rcases hab.origin k hb with ha | ha
      · exact hmine ha
      · omega
    rw [hbc.others k (Nat.lt_of_lt_of_le hk hab.next_le) hmine', hab.others k hk hmine]
  origin := by
    intro k hk
    rcases hbc.origin k hk with hb | hb
    · exact hab.origin k hb
    · exact .inr (Nat.le_trans hab.next_le hb)
  holds := hbc.holds

/-! ### Counting -/

/-- At most one record is touched: that of the name, or a new one. -/
theorem count_cases (l : Ledger) (mine : List Nat) (name : Text) (amount : Int) :
    (∃ k ∈ mine, (l.record k).1 = name ∧ l.count mine name amount = (l.raise k amount, mine)) ∨
      (∀ k ∈ mine, (l.record k).1 ≠ name) ∧ l.count mine name amount =
        (l.enter name amount, mine ++ [l.next]) := by
  unfold count
  split
  · next k hfind =>
    left
    exact ⟨k, List.mem_of_find?_eq_some hfind, by simpa using List.find?_some hfind, rfl⟩
  · next hfind =>
    right
    exact ⟨by simpa using hfind, rfl⟩

theorem record_raise_of_ne {j k : Nat} (h : j ≠ k) (amount : Int) :
    (l.raise k amount).record j = l.record j :=
  Function.update_of_ne h _ _

theorem fst_record_raise (j k : Nat) (amount : Int) :
    ((l.raise k amount).record j).1 = (l.record j).1 := by
  by_cases h : j = k
  · subst h
    simp [raise]
  · rw [record_raise_of_ne h]

theorem record_enter_of_lt {j : Nat} (h : j < l.next) (name : Text) (amount : Int) :
    (l.enter name amount).record j = l.record j :=
  Function.update_of_ne (Nat.ne_of_lt h) _ _

theorem record_enter_next (name : Text) (amount : Int) :
    (l.enter name amount).record l.next = (name, amount) :=
  Function.update_self _ _ _

/-- Only a record of the name that is counted changes, and it keeps the name. -/
theorem record_count {j : Nat} (hj : j < l.next) (name : Text) (amount : Int) :
    ((l.count mine name amount).1.record j).1 = (l.record j).1 ∧
      ((l.record j).1 ≠ name → (l.count mine name amount).1.record j = l.record j) := by
  rcases count_cases l mine name amount with ⟨k, -, hk, heq⟩ | ⟨-, heq⟩
  · rw [heq]
    refine ⟨fst_record_raise j k amount, fun hname ↦ record_raise_of_ne ?_ amount⟩
    rintro rfl
    exact hname hk
  · rw [heq, record_enter_of_lt hj]
    exact ⟨rfl, fun _ ↦ rfl⟩

theorem map_record_raise {k : Nat} (h : l.Holds mine) (hk : k ∈ mine) (amount : Int) :
    mine.map (l.raise k amount).record = Registry.addTo (l.record k).1 amount
      (mine.map l.record) := by
  induction mine with
  | nil => cases hk
  | cons j mine ih =>
      rw [List.map_cons, List.map_cons, Registry.addTo]
      by_cases hname : (l.record j).1 = (l.record k).1
      · obtain rfl : j = k := h.eq_of_name_eq List.mem_cons_self hk hname
        have hrest : mine.map (l.raise j amount).record = mine.map l.record := by
          apply List.map_congr_left
          intro i hi
          apply record_raise_of_ne
          rintro rfl
          exact (List.nodup_cons.mp h.nodup).1 hi
        rw [hrest, if_pos rfl]
        simp [raise]
      · have hne : j ≠ k := by
          rintro rfl
          exact hname rfl
        rw [if_neg hname, record_raise_of_ne hne,
          ih h.of_cons ((List.mem_cons.mp hk).resolve_left (Ne.symm hne))]

theorem map_record_enter (h : l.Holds mine) {name : Text}
    (hname : ∀ k ∈ mine, (l.record k).1 ≠ name) (amount : Int) :
    (mine ++ [l.next]).map (l.enter name amount).record =
      Registry.addTo name amount (mine.map l.record) := by
  have hnew : name ∉ (mine.map l.record).map Prod.fst := by
    rw [List.map_map, List.mem_map]
    rintro ⟨k, hk, hkname⟩
    exact hname k hk hkname
  have hold : mine.map (l.enter name amount).record = mine.map l.record :=
    List.map_congr_left fun k hk ↦ record_enter_of_lt (h.used k hk) name amount
  rw [List.map_append, hold, Registry.addTo_of_not_mem hnew, List.map_singleton, record_enter_next]

/-- Counting in the ledger shows as adding to the registry. -/
theorem view_count (h : l.Holds mine) (name : Text) (amount : Int) :
    (l.count mine name amount).1.view (l.count mine name amount).2 =
      (l.view mine).add name amount := by
  rcases count_cases l mine name amount with ⟨k, hk, rfl, heq⟩ | ⟨hname, heq⟩
  · rw [heq]
    exact congrArg Registry.mk (map_record_raise h hk amount)
  · rw [heq]
    exact congrArg Registry.mk (map_record_enter h hname amount)

/-- Counting for one holder leaves the records of all others alone. -/
theorem counts_count (h : l.Holds mine) (name : Text) (amount : Int) :
    Counts (l, mine) (l.count mine name amount) := by
  rcases count_cases l mine name amount with ⟨k, hk, -, heq⟩ | ⟨hname, heq⟩
  · rw [heq]
    refine ⟨Nat.le_refl _, ?_, fun _ hj ↦ .inl hj, ?_⟩
    · intro j _ hj
      apply record_raise_of_ne
      rintro rfl
      exact hj hk
    · exact h.congr (Nat.le_refl _) fun j _ ↦ fst_record_raise j k amount
  · rw [heq]
    have hold : ∀ k ∈ mine, (l.enter name amount).record k = l.record k :=
      fun k hk ↦ record_enter_of_lt (h.used k hk) name amount
    refine ⟨Nat.le_succ _, fun j hj _ ↦ record_enter_of_lt hj name amount, ?_, ?_, ?_⟩
    · intro j hj
      rcases List.mem_append.mp hj with hj | hj
      · exact .inl hj
      · exact .inr (Nat.le_of_eq (List.mem_singleton.mp hj).symm)
    · intro j hj
      rcases List.mem_append.mp hj with hj | hj
      · exact Nat.lt_succ_of_lt (h.used j hj)
      · rw [List.mem_singleton.mp hj]
        exact Nat.lt_succ_self _
    · rw [List.map_append, List.map_singleton, record_enter_next, List.nodup_append]
      have hnames :
          (mine.map fun k ↦ ((l.enter name amount).record k).1) = mine.map fun k ↦ (l.record k).1 :=
        List.map_congr_left fun k hk ↦ congrArg Prod.fst (hold k hk)
      rw [hnames]
      refine ⟨h.distinct, List.nodup_singleton name, ?_⟩
      rintro n hn m hm rfl
      obtain ⟨k, hk, rfl⟩ := List.mem_map.mp hn
      exact hname k hk (List.mem_singleton.mp hm)

/-! ### Merging -/

theorem absorb_cons (state : Ledger × List Nat) (k : Nat) (others : List Nat) :
    absorb state (k :: others) =
      absorb (state.1.count state.2 (state.1.record k).1 (state.1.record k).2) others := rfl

/-- The records still to be read are untouched, even if they are the holder's own: one record at
most changes, that of the name just read, and the others have other names. -/
theorem absorb_spec (h : l.Holds mine) {others : List Nat} (hothers : l.Holds others) :
    Counts (l, mine) (absorb (l, mine) others) ∧
      (absorb (l, mine) others).1.view (absorb (l, mine) others).2 =
        (l.view mine).merge (l.view others) := by
  induction others generalizing l mine with
  | nil => exact ⟨.refl h, rfl⟩
  | cons k others ih =>
      have hcounts := counts_count h (l.record k).1 (l.record k).2
      have hview := view_count h (l.record k).1 (l.record k).2
      have hrest :
          ∀ j ∈ others, (l.count mine (l.record k).1 (l.record k).2).1.record j = l.record j := by
        intro j hj
        apply (record_count (hothers.of_cons.used j hj) _ _).2
        intro hname
        have heq := hothers.eq_of_name_eq (List.mem_cons_of_mem k hj) List.mem_cons_self hname
        exact (List.nodup_cons.mp hothers.nodup).1 (heq ▸ hj)
      have hheld := hothers.of_cons.congr hcounts.next_le fun j hj ↦ congrArg Prod.fst (hrest j hj)
      obtain ⟨hmore, hmerged⟩ := ih hcounts.holds hheld
      rw [absorb_cons]
      refine ⟨hcounts.trans hmore, ?_⟩
      rw [hmerged, view_congr hrest, hview]
      rfl

/-- A new registry is made of others without touching their records. -/
theorem foldl_absorb_spec {lists : List (List Nat)} (hlists : ∀ others ∈ lists, l.Holds others)
    {state : Ledger × List Nat} (hstate : Counts (l, []) state) :
    Counts (l, []) (lists.foldl absorb state) ∧
      (lists.foldl absorb state).1.view (lists.foldl absorb state).2 =
        (lists.map l.view).foldl .merge (state.1.view state.2) := by
  induction lists generalizing state with
  | nil => exact ⟨hstate, rfl⟩
  | cons others lists ih =>
      obtain ⟨hothers, hlists⟩ := List.forall_mem_cons.mp hlists
      have hsame : ∀ k ∈ others, state.1.record k = l.record k :=
        fun k hk ↦ hstate.others k (hothers.used k hk) List.not_mem_nil
      have hheld := hothers.congr hstate.next_le fun k hk ↦ congrArg Prod.fst (hsame k hk)
      obtain ⟨hmore, hmerged⟩ := absorb_spec hstate.holds hheld
      obtain ⟨hall, hview⟩ := ih hlists (hstate.trans hmore)
      refine ⟨hall, ?_⟩
      rw [List.foldl_cons, List.map_cons, List.foldl_cons, hview, hmerged, view_congr hsame]

end

end Ledger

/-- Registries by their keys, each as the list of the records that it holds. -/
structure Shelf (κ : Type) where
  ledger : Ledger
  held : κ → List Nat

namespace Shelf

variable {κ : Type}

def view (s : Shelf κ) (r : κ) : Registry := s.ledger.view (s.held r)

/-- No record is held by two registries. -/
structure Apart (s : Shelf κ) : Prop where
  holds : ∀ r, s.ledger.Holds (s.held r)
  disjoint : ∀ q r, q ≠ r → ∀ k ∈ s.held q, k ∉ s.held r

variable [DecidableEq κ]

def put (s : Shelf κ) (r : κ) (state : Ledger × List Nat) : Shelf κ :=
  ⟨state.1, Function.update s.held r state.2⟩

def perform (s : Shelf κ) : RegistryStep κ → Shelf κ
  | .record r name => s.put r (s.ledger.count (s.held r) name 1)
  | .merge r other => s.put r (Ledger.absorb (s.ledger, s.held r) (s.held other))
  | .merged r others => s.put r ((others.map s.held).foldl Ledger.absorb (s.ledger, []))

def run (steps : List (RegistryStep κ)) : Shelf κ :=
  steps.foldl perform ⟨⟨0, fun _ ↦ ([], 0)⟩, fun _ ↦ []⟩

section

variable {s : Shelf κ} {r : κ} {mine : List Nat} {state : Ledger × List Nat}

/-- Counting for a registry that goes on with its own records, or begins anew, leaves all other
registries alone. -/
theorem Apart.put (h : s.Apart) (hmine : mine ⊆ s.held r)
    (hcounts : Ledger.Counts (s.ledger, mine) state) :
    (s.put r state).Apart ∧ (s.put r state).view =
      Function.update s.view r (state.1.view state.2) := by
  have hsame : ∀ q, q ≠ r → ∀ k ∈ s.held q, state.1.record k = s.ledger.record k := by
    intro q hq k hk
    apply hcounts.others k ((h.holds q).used k hk)
    exact fun hkmine ↦ h.disjoint q r hq k hk (hmine hkmine)
  have hnew : ∀ q, q ≠ r → ∀ k ∈ state.2, k ∉ s.held q := by
    intro q hq k hk hkq
    rcases hcounts.origin k hk with hkmine | hfresh
    · exact h.disjoint q r hq k hkq (hmine hkmine)
    · exact absurd ((h.holds q).used k hkq) (Nat.not_lt.mpr hfresh)
  refine ⟨⟨?_, ?_⟩, ?_⟩
  · intro q
    by_cases hq : q = r
    · subst hq
      simpa [Shelf.put] using hcounts.holds
    · have hheld := (h.holds q).congr hcounts.next_le fun k hk ↦ congrArg Prod.fst (hsame q hq k hk)
      simpa [Shelf.put, hq] using hheld
  · intro p q hpq k hkp hkq
    by_cases hp : p = r
    · subst hp
      have hq : q ≠ p := Ne.symm hpq
      simp only [Shelf.put, Function.update_self, Function.update_of_ne hq] at hkp hkq
      exact hnew q hq k hkp hkq
    · by_cases hq : q = r
      · subst hq
        simp only [Shelf.put, Function.update_self, Function.update_of_ne hp] at hkp hkq
        exact hnew p hp k hkq hkp
      · simp only [Shelf.put, Function.update_of_ne hp, Function.update_of_ne hq] at hkp hkq
        exact h.disjoint p q hpq k hkp hkq
  · funext q
    by_cases hq : q = r
    · subst hq
      simp [Shelf.put, view]
    · simp only [Shelf.put, view, Function.update_of_ne hq]
      exact Ledger.view_congr (hsame q hq)

/-- The step: registries stay apart, and what they show changes as if they held counts of their
own. -/
theorem Apart.perform (h : s.Apart) (step : RegistryStep κ) :
    (s.perform step).Apart ∧ (s.perform step).view = step.apply s.view := by
  cases step with
  | record r name =>
      obtain ⟨hapart, hview⟩ := h.put (List.Subset.refl _) (Ledger.counts_count (h.holds r) name 1)
      refine ⟨hapart, hview.trans ?_⟩
      rw [Ledger.view_count (h.holds r)]
      rfl
  | merge r other =>
      obtain ⟨hcounts, hmerged⟩ := Ledger.absorb_spec (h.holds r) (h.holds other)
      obtain ⟨hapart, hview⟩ := h.put (List.Subset.refl _) hcounts
      refine ⟨hapart, hview.trans ?_⟩
      rw [hmerged]
      rfl
  | merged r others =>
      have hlists : ∀ os ∈ others.map s.held, s.ledger.Holds os := by
        intro os hos
        obtain ⟨q, -, rfl⟩ := List.mem_map.mp hos
        exact h.holds q
      have hnil : s.ledger.Holds [] := ⟨fun _ hk ↦ absurd hk List.not_mem_nil, List.nodup_nil⟩
      obtain ⟨hcounts, hmerged⟩ := Ledger.foldl_absorb_spec hlists (.refl hnil)
      obtain ⟨hapart, hview⟩ := h.put (List.nil_subset _) hcounts
      refine ⟨hapart, hview.trans ?_⟩
      rw [hmerged, List.map_map]
      rfl

end

/-- The run: in every state that is reached the registries are apart and show the counts. -/
theorem apart_run (steps : List (RegistryStep κ)) :
    (run steps).Apart ∧ (run steps).view = RegistryStep.registries steps := by
  induction steps using List.reverseRecOn with
  | nil =>
      refine ⟨⟨?_, ?_⟩, rfl⟩
      · exact fun _ ↦ ⟨fun _ hk ↦ absurd hk List.not_mem_nil, List.nodup_nil⟩
      · exact fun _ _ _ _ hk ↦ absurd hk List.not_mem_nil
  | append_singleton steps step ih =>
      obtain ⟨hapart, hview⟩ := ih.1.perform step
      rw [run, List.foldl_append, ← run]
      refine ⟨hapart, hview.trans ?_⟩
      rw [ih.2, RegistryStep.registries, RegistryStep.registries, List.foldl_append]
      rfl

/-- In every state that is reached, a registry shows the distinct names of its history in the order
of first sight with the number of their occurrences, as it does if all registries hold counts of
their own.  A step changes no registry but its target. -/
theorem view_run_eq_tally (steps : List (RegistryStep κ)) (r : κ) :
    (run steps).view r = RegistryStep.registries steps r ∧
      ((run steps).view r).entries = Registry.tally (RegistryStep.histories steps r) ∧
      (∀ entry ∈ ((run steps).view r).entries, 1 ≤ entry.2) ∧
      ∀ step : RegistryStep κ, r ≠ step.target →
        ((run steps).perform step).view r = (run steps).view r := by
  obtain ⟨hapart, hview⟩ := apart_run steps
  have hentries :
      ((run steps).view r).entries = Registry.tally (RegistryStep.histories steps r) := by
    rw [hview, RegistryStep.registries_eq, Registry.entries_foldl_record]
  refine ⟨congrFun hview r, hentries, ?_, ?_⟩
  · intro entry hentry
    rw [hentries] at hentry
    obtain ⟨name, hname, rfl⟩ := List.mem_map.mp hentry
    have hpos := List.count_pos_iff.mpr (List.mem_eraseDups.mp hname)
    simp only
    omega
  · intro step hr
    rw [(hapart.perform step).2, RegistryStep.apply_of_ne hr]

/-- A registry merged into itself doubles its counts and keeps the order of its names; a later merge
of it into another registry does not reach back. -/
theorem view_run_eq_tally_selfMerge :
    let steps : List (RegistryStep Bool) :=
      [.record true (.ofString "f"), .record false (.ofString "g"), .merge true false,
        .merge true true]
    let step : RegistryStep Bool := .merged false [true, false, true]
    ((run steps).view true).entries = [(.ofString "f", 2), (.ofString "g", 2)] ∧
      (.ofString "g", 2) ∈ ((run steps).view true).entries ∧ (1 : Int) ≤ 2 ∧
      true ≠ step.target ∧ ((run steps).perform step).view true = (run steps).view true := by
  intro steps step
  obtain ⟨-, hentries, hpos, hothers⟩ := view_run_eq_tally steps true
  have htally : ((run steps).view true).entries = [(.ofString "f", 2), (.ofString "g", 2)] := by
    rw [hentries]
    decide +kernel
  have hmem : (.ofString "g", 2) ∈ ((run steps).view true).entries := by
    rw [htally]
    exact List.mem_cons_of_mem _ List.mem_cons_self
  have hne : true ≠ step.target := Bool.noConfusion
  exact ⟨htally, hmem, hpos _ hmem, hne, hothers step hne⟩

end Shelf

end CallAudit
