import CallAudit.Node.Basic
import CallAudit.Proofs.KeyValues
import CallAudit.Proofs.NodeNumbers
import CallAudit.Proofs.QuotedTexts
import CallAudit.Proofs.RecursiveWalk

/-!
# Listings of trees

The listing of a tree has one line for each node, in preorder, and the blanks before a line say how
deep the node is.  It determines the tree up to what it does not show.  No text can imitate another
line or another part of its own line: the line ends of a text are escaped, its quotes say where it
ends, and the kinds and numerals beside it hold no blank.
-/

namespace CallAudit

/-! ### Rows -/

namespace Tree

variable {α β : Type}

mutual

def rows (depth : Nat) : Tree α → List (Nat × α)
  | node a children => (depth, a) :: rowsAll (depth + 1) children

def rowsAll (depth : Nat) : List (Tree α) → List (Nat × α)
  | [] => []
  | t :: ts => rows depth t ++ rowsAll depth ts

end

theorem rowsAll_eq_flatMap (depth : Nat) (ts : List (Tree α)) :
    rowsAll depth ts = ts.flatMap (rows depth) := by
  induction ts with
  | nil => rfl
  | cons t ts ih => rw [rowsAll, ih, List.flatMap_cons]

theorem rows_eq (depth : Nat) (t : Tree α) :
    rows depth t = (depth, t.label) :: t.children.flatMap (rows (depth + 1)) := by
  obtain ⟨a, children⟩ := t
  rw [rows, rowsAll_eq_flatMap]
  rfl

theorem rows_map (f : α → β) (depth : Nat) (t : Tree α) :
    rows depth (t.map f) = (rows depth t).map fun row ↦ (row.1, f row.2) := by
  induction t generalizing depth with
  | node a cs ih =>
      rw [rows_eq, rows_eq, label_map, children_map, List.flatMap_map, List.map_cons,
        List.map_flatMap]
      congr 1
      exact List.flatMap_congr fun c hc ↦ ih c hc (depth + 1)

theorem exists_mem_subtrees_of_mem_rows {depth : Nat} {t : Tree α} {row : Nat × α}
    (h : row ∈ rows depth t) :
    ∃ s ∈ t.subtrees, s.label = row.2 := by
  induction t generalizing depth with
  | node a cs ih =>
      rw [rows_eq, List.mem_cons, List.mem_flatMap] at h
      rcases h with rfl | ⟨c, hc, hrow⟩
      · exact ⟨_, mem_subtrees_self _, rfl⟩
      · obtain ⟨s, hs, hlabel⟩ := ih c hc hrow
        exact ⟨s, mem_subtrees_iff.mpr (.inr ⟨c, hc, hs⟩), hlabel⟩

/-- Puts the rows of a tree in front of later trees, of which the first is no deeper. -/
def prepend (rows : List (Nat × α)) (later : List (Nat × Tree α)) : List (Nat × Tree α) :=
  rows.foldr (fun row later ↦ absorb row.1 row.2 later) later

/-- A row takes the trees one level below it as children, up to the first tree that is no deeper
than the row. -/
theorem absorb_children (depth : Nat) (a : α) (cs : List (Tree α)) {later : List (Nat × Tree α)}
    (hlater : ∀ entry ∈ later.head?, entry.1 ≤ depth) :
    absorb depth a (cs.map (fun c ↦ (depth + 1, c)) ++ later) = (depth, node a cs) :: later := by
  have hdeeper : ∀ entry ∈ cs.map (fun c ↦ (depth + 1, c)), decide (depth < entry.1) = true := by
    simp
  have htake : later.takeWhile (fun entry ↦ decide (depth < entry.1)) = [] := by
    cases later with
    | nil => rfl
    | cons entry later =>
        rw [List.takeWhile_cons_of_neg]
        simpa using hlater entry rfl
  have hdrop : later.dropWhile (fun entry ↦ decide (depth < entry.1)) = later := by
    simpa [htake]
      using List.takeWhile_append_dropWhile (p := fun entry ↦ decide (depth < entry.1)) (l := later)
  rw [absorb, List.takeWhile_append_of_pos hdeeper, List.dropWhile_append_of_pos hdeeper, htake,
    hdrop, List.append_nil, List.map_map,
    show (Prod.snd ∘ fun c : Tree α ↦ (depth + 1, c)) = id from rfl, List.map_id]

/-- The rows of a tree grow into that tree, in front of trees that are no deeper. -/
theorem prepend_rows (depth : Nat) (t : Tree α) {later : List (Nat × Tree α)}
    (hlater : ∀ entry ∈ later.head?, entry.1 ≤ depth) :
    prepend (rows depth t) later = (depth, t) :: later := by
  induction t generalizing depth later with
  | node a cs ih =>
      have hchildren : prepend (cs.flatMap (rows (depth + 1))) later =
          cs.map (fun c ↦ (depth + 1, c)) ++ later := by
        -- from the last child to the first: what stands behind a child is the next child or `later`
        induction cs with
        | nil => rfl
        | cons c cs ihcs =>
            rw [List.flatMap_cons, prepend, List.foldr_append, ← prepend, ← prepend,
              ihcs fun c hc ↦ ih c (List.mem_cons_of_mem _ hc), ih c List.mem_cons_self (depth + 1),
              List.map_cons, List.cons_append]
            intro entry hentry
            cases cs with
            | nil => exact Nat.le_succ_of_le (hlater entry hentry)
            | cons d ds =>
                cases hentry
                exact Nat.le_refl _
      rw [rows_eq, prepend, List.foldr_cons, ← prepend, children_node, hchildren]
      exact absorb_children depth a cs hlater

/-- A tree can be read off its rows. -/
theorem ofRows_rows (depth : Nat) (t : Tree α) : ofRows (rows depth t) = [t] := by
  rw [ofRows, ← prepend, prepend_rows depth t (by simp)]
  rfl

/-- A tree is determined by its rows. -/
theorem rows_inj {depth : Nat} {t u : Tree α} (h : rows depth t = rows depth u) : t = u := by
  have hof := congrArg ofRows h
  rw [ofRows_rows, ofRows_rows] at hof
  exact List.cons.inj hof |>.1

/-- The rows come in the order in which the places of the tree are visited. -/
theorem map_preorder_place (p : Place α) :
    p.preorder.map (fun q ↦ (q.ancestors.length, q.tree.label)) =
      rows p.ancestors.length p.tree := by
  obtain ⟨t, following, ancestors⟩ := p
  induction t generalizing following ancestors with
  | node a cs ih =>
      rw [Place.preorder_eq, ← Place.flatMap_preorder_children, List.map_cons, List.map_flatMap,
        rows_eq]
      congr 1
      have hsiblings : ∀ (above ts : List (Tree α)), (∀ t ∈ ts, t ∈ cs) →
          (Place.siblings above ts).flatMap (fun q ↦ q.preorder.map fun q ↦
            (q.ancestors.length, q.tree.label)) =
            ts.flatMap (rows above.length) := by
        intro above ts hts
        induction ts with
        | nil => rfl
        | cons t ts ihts =>
            rw [Place.siblings, List.flatMap_cons, List.flatMap_cons,
              ih t (hts t List.mem_cons_self) ts above,
              ihts fun u hu ↦ hts u (List.mem_cons_of_mem _ hu)]
      exact hsiblings (node a cs :: ancestors) cs fun _ h ↦ h

end Tree

/-! ### Lines -/

namespace Text

theorem splitAt_of_notMem {c : CodePoint} {t : Text} (h : c ∉ t) : splitAt c t = [t] := by
  induction t with
  | nil => rfl
  | cons d t ih =>
      rw [List.mem_cons, not_or] at h
      rw [splitAt, ih h.2]
      exact if_neg (Ne.symm h.1)

theorem splitAt_append_cons {c : CodePoint} {s : Text} (h : c ∉ s) (t : Text) :
    splitAt c (s ++ c :: t) = s :: splitAt c t := by
  induction s with
  | nil =>
      rw [List.nil_append, splitAt]
      cases hpieces : splitAt c t with
      | nil =>
          have hne : splitAt c t ≠ [] := by
            cases t with
            | nil => simp [splitAt]
            | cons d t =>
                rw [splitAt]
                split
                · simp
                · split <;> simp
          exact absurd hpieces hne
      | cons piece pieces => exact if_pos rfl
  | cons d s ih =>
      rw [List.mem_cons, not_or] at h
      rw [List.cons_append, splitAt, ih h.2]
      exact if_neg (Ne.symm h.1)

/-- Lines are read off a text again by splitting it at its line ends. -/
theorem splitAt_join {c : CodePoint} {lines : List Text} (hne : lines ≠ [])
    (h : ∀ t ∈ lines, c ∉ t) :
    splitAt c (join [c] lines) = lines := by
  induction lines with
  | nil => exact absurd rfl hne
  | cons t ts ih =>
      obtain ⟨ht, hts⟩ := List.forall_mem_cons.mp h
      cases ts with
      | nil => exact splitAt_of_notMem ht
      | cons u us =>
          have hjoin : join [c] (t :: u :: us) = t ++ c :: join [c] (u :: us) := by
            rw [join, List.append_assoc, List.singleton_append]
            exact List.cons_ne_nil u us
          rw [hjoin, splitAt_append_cons ht, ih (List.cons_ne_nil u us) hts]

/-- Two texts that agree up to the first occurrence of a code point agree behind it too. -/
theorem append_cons_inj {c : CodePoint} {s t x y : Text} (hs : c ∉ s) (ht : c ∉ t)
    (h : s ++ c :: x = t ++ c :: y) :
    s = t ∧ x = y := by
  have hsplit := congrArg (List.takeWhile (· != c)) h
  have hall : ∀ {u : Text}, c ∉ u → ∀ d ∈ u, (d != c) = true := by
    intro u hu d hd
    exact bne_iff_ne.mpr fun hdc ↦ hu (hdc ▸ hd)
  have hstop : ∀ z : Text, (c :: z).takeWhile (· != c) = [] := fun z ↦ by simp
  rw [List.takeWhile_append_of_pos (hall hs), List.takeWhile_append_of_pos (hall ht), hstop, hstop,
    List.append_nil, List.append_nil] at hsplit
  subst hsplit
  exact ⟨rfl, (List.cons.inj (List.append_cancel_left h)).2⟩

theorem replicate_append_inj {c : CodePoint} {s t : Text} (hs : s.head? ≠ some c)
    (ht : t.head? ≠ some c) {m n : Nat} (h : List.replicate m c ++ s = List.replicate n c ++ t) :
    m = n ∧ s = t := by
  induction m generalizing n with
  | zero =>
      cases n with
      | zero => exact ⟨rfl, h⟩
      | succ n => exact absurd (congrArg List.head? h) hs
  | succ m ih =>
      cases n with
      | zero => exact absurd (congrArg List.head? h).symm ht
      | succ n =>
          obtain ⟨rfl, hst⟩ := ih (List.cons.inj h).2
          exact ⟨rfl, hst⟩

/-! ### Numbers in a line -/

theorem ofNat_injective : Function.Injective ofNat := by
  intro m n h
  have hdigits := List.map_injective_iff.mpr CodePoint.ofChar_injective h
  rw [← Nat.ofDigitChars_ten_toDigits (n := m), hdigits, Nat.ofDigitChars_ten_toDigits]

theorem dense_ofNat (n : Nat) : Dense (ofNat n) := by
  intro d hd
  obtain ⟨c, hc, rfl⟩ := List.mem_map.mp hd
  have hdigit := Nat.isDigit_of_mem_toDigits (by decide) (by decide) hc
  exact Nat.lt_of_lt_of_le (by decide) (Char.isDigit_iff_toNat.mp hdigit).1

theorem ofNat_ne_minus_cons (n : Nat) (t : Text) : ofNat n ≠ CodePoint.ofChar '-' :: t := by
  intro h
  have hmem : CodePoint.ofChar '-' ∈ ofNat n := h ▸ List.mem_cons_self
  obtain ⟨c, hc, hminus⟩ := List.mem_map.mp hmem
  have hdigit := Nat.isDigit_of_mem_toDigits (by decide) (by decide) hc
  rw [CodePoint.ofChar_injective hminus] at hdigit
  exact absurd hdigit (by decide)

/-- A minus sign is no digit, so that signs and digits can be told apart. -/
theorem ofInt_injective : Function.Injective ofInt := by
  intro a b h
  cases a with
  | ofNat m =>
      cases b with
      | ofNat n => exact congrArg Int.ofNat (ofNat_injective h)
      | negSucc n => exact absurd h (ofNat_ne_minus_cons m _)
  | negSucc m =>
      cases b with
      | ofNat n => exact absurd h.symm (ofNat_ne_minus_cons n _)
      | negSucc n =>
          have hsucc := ofNat_injective (List.cons.inj h).2
          exact congrArg Int.negSucc (Nat.succ.inj hsucc)

theorem dense_ofInt (i : Int) : Dense (ofInt i) := by
  cases i with
  | ofNat n => exact dense_ofNat n
  | negSucc n => exact List.forall_mem_cons.mpr ⟨by decide, dense_ofNat (n + 1)⟩

theorem Dense.nil : Dense [] := List.forall_mem_nil _

theorem Dense.concat {t : Text} {ts : List Text} (ht : t.Dense) (hts : Dense (concat ts)) :
    Dense (concat (t :: ts)) :=
  ht.append hts

theorem Dense.blank_notMem {t : Text} (h : t.Dense) : .ofChar ' ' ∉ t :=
  fun hmem ↦ absurd (h _ hmem) (by decide)

theorem Dense.of_subset {s t : Text} (ht : t.Dense) (h : s ⊆ t) : s.Dense := fun c hc ↦ ht c (h hc)

end Text

namespace Binary64

open Text (Dense)

theorem Layout.dense_positional {digits : Text} (h : digits.Dense) (point : Int) :
    Dense (positional digits point) := by
  unfold positional
  split
  · exact .concat (by decide) (.concat (Text.dense_zeros _) (.concat h .nil))
  · split
    · exact .concat h (.concat (Text.dense_zeros _) (.concat (by decide) .nil))
    · have htake := h.of_subset (List.take_subset point.toNat digits)
      have hdrop := h.of_subset (List.drop_subset point.toNat digits)
      exact .concat htake (.concat (by decide) (.concat hdrop .nil))

theorem Layout.dense_scientific (width : Nat) {digits : Text} (h : digits.Dense) (point : Int) :
    Dense (scientific width digits point) := by
  unfold scientific
  refine .concat ?_ (.concat (by decide) (.concat ?_ (.concat ?_ .nil)))
  · split
    · exact h
    · have htake := h.of_subset (List.take_subset 1 digits)
      have hdrop := h.of_subset (List.drop_subset 1 digits)
      exact .concat htake (.concat (by decide) (.concat hdrop .nil))
  · split <;> decide
  · exact (Text.dense_zeros _).append (Text.dense_ofNat _)

theorem Layout.dense_write (layout : Layout) {digits : Text} (h : digits.Dense) (point : Int) :
    Dense (layout.write digits point) := by
  unfold write
  split
  · exact dense_positional h point
  · exact dense_scientific layout.exponentWidth h point

/-- A number is shown without blanks. -/
theorem dense_decimal (x : Binary64) : Dense x.decimal := by
  cases x with
  | nan => decide
  | infinite negative => cases negative <;> decide
  | finite negative significand scale =>
      have hdigits : ∀ n, Dense (Text.trimEndBy (fun c ↦ c == '0') (Text.ofNat n)) := by
        intro n
        apply (Text.dense_ofNat n).of_subset
        intro c hc
        exact List.mem_reverse.mp ((List.dropWhile_suffix _).subset (List.mem_reverse.mp hc))
      rw [decimal]
      generalize shortest significand scale = decimal
      have hmagnitude : Dense (if significand = 0 then ("0.0" : Text) else
          Layout.report.write (Text.trimEndBy (fun c ↦ c == '0') (Text.ofNat decimal.1))
            (decimal.2 + (Text.ofNat decimal.1).length)) := by
        split
        · decide
        · exact Layout.report.dense_write (hdigits decimal.1) _
      cases negative with
      | false => exact hmagnitude
      | true => exact List.forall_mem_cons.mpr ⟨by decide, hmagnitude⟩

end Binary64

namespace Node

open Text (Dense)

/-! ### The parts of a line -/

namespace Kind

theorem mem_all (k : Kind) : k ∈ all := by
  cases k with
  | assign operator =>
      exact List.mem_append_right _ (List.mem_map_of_mem (by cases operator <;> decide))
  | _ => decide

/-- The names of kinds are words, and each names one kind. -/
theorem label_spec :
    ∀ k ∈ all, ofLabel? k.label = some k ∧ Dense k.label ∧ Text.ofString k.label ≠ [] := by
  decide +kernel

theorem dense_label (k : Kind) : Dense k.label := (label_spec k k.mem_all).2.1

theorem label_ne_nil (k : Kind) : Text.ofString k.label ≠ [] := (label_spec k k.mem_all).2.2

/-- Kinds are listed under different names. -/
theorem label_injective : Function.Injective fun k : Kind ↦ Text.ofString k.label := by
  intro k l h
  have hlabel : k.label = l.label :=
    String.toList_inj.mp (List.map_injective_iff.mpr CodePoint.ofChar_injective h)
  have hof := congrArg ofLabel? hlabel
  rw [(label_spec k k.mem_all).1, (label_spec l l.mem_all).1] at hof
  exact Option.some.inj hof

end Kind

/-- What the line of a node shows of it.  An empty rule is not shown, nor is the rule of a node that
is not of kind `other`; a node of kind `number` shows its number and no text. -/
@[ext] structure Face where
  kind : Kind
  rule? : Option Text
  numeral? : Option Text
  string? : Option Text
  line : Int
  deriving DecidableEq

namespace Face

def rulePart (rule? : Option Text) : Text := rule?.elim [] fun rule ↦ Text.concat [" (", rule, ")"]

def numeralPart (numeral? : Option Text) : Text := numeral?.elim [] fun numeral ↦ ' ' :: numeral

def stringPart (string? : Option Text) : Text := string?.elim [] fun s ↦ ' ' :: s.quoted

def linePart (line : Int) : Text := Text.concat [" [line ", Text.ofInt line, "]"]

def render (f : Face) : Text :=
  Text.ofString f.kind.label ++
    (rulePart f.rule? ++ (numeralPart f.numeral? ++ (stringPart f.string? ++ linePart f.line)))

theorem linePart_injective : Function.Injective linePart := by
  intro a b h
  have hmiddle : Text.ofInt a ++ Text.concat ["]"] = Text.ofInt b ++ Text.concat ["]"] :=
    List.append_cancel_left h
  exact Text.ofInt_injective (List.append_cancel_right hmiddle)

theorem linePart_eq (line : Int) :
    linePart line = .ofChar ' ' :: .ofChar '[' :: (linePart line).drop 2 := rfl

theorem stringPart_some_append (s x : Text) :
    stringPart (some s) ++ x = .ofChar ' ' :: (s.quoted ++ x) := rfl

theorem rulePart_some_append (rule x : Text) :
    rulePart (some rule) ++ x = .ofChar ' ' :: .ofChar '(' :: (rule ++ .ofChar ')' :: x) := by
  have hconcat : rulePart (some rule) = .ofChar ' ' :: .ofChar '(' :: (rule ++ [.ofChar ')']) := rfl
  rw [hconcat, List.cons_append, List.cons_append, List.append_assoc, List.singleton_append]

/-- A numeral ends with the first blank. -/
theorem numeralPart_inj {s t : Text} (hs : s.Dense) (ht : t.Dense) {a b : Int}
    (h : numeralPart (some s) ++ linePart a = numeralPart (some t) ++ linePart b) :
    s = t ∧ a = b := by
  rw [linePart_eq a, linePart_eq b] at h
  obtain ⟨hst, hline⟩ := Text.append_cons_inj hs.blank_notMem ht.blank_notMem (List.cons.inj h).2
  apply And.intro hst
  apply linePart_injective
  rw [linePart_eq a, linePart_eq b, hline]

/-- What a quoted text begins with tells it from everything else that stands behind a blank. -/
theorem quoted_append_ne {c : CodePoint} (hc : c ∉ StringLiteral.quotes) (s x y : Text) :
    s.quoted ++ x ≠ c :: y := by
  intro h
  have hquote : s.quoteFor = c := (List.cons.inj h).1
  exact hc (hquote ▸ s.quoteFor_mem_quotes)

/-- A quoted text ends with its closing quote, so that what follows can be told. -/
theorem stringPart_inj {s? t? : Option Text} {a b : Int}
    (h : stringPart s? ++ linePart a = stringPart t? ++ linePart b) : s? = t? ∧ a = b := by
  have hbracket : ∀ (s : Text) (a b : Int), stringPart (some s) ++ linePart a ≠ linePart b := by
    intro s a b h
    rw [stringPart_some_append, linePart_eq b] at h
    exact quoted_append_ne (by decide) s _ _ (List.cons.inj h).2
  cases s? with
  | none =>
      cases t? with
      | none => exact ⟨rfl, linePart_injective h⟩
      | some t => exact absurd h.symm (hbracket t b a)
  | some s =>
      cases t? with
      | none => exact absurd h (hbracket s a b)
      | some t =>
          obtain ⟨rfl, hline⟩ := Text.quoted_append_inj (List.cons.inj h).2
          exact ⟨rfl, linePart_injective hline⟩

theorem stringPart_append_ne (s? : Option Text) (line : Int) (y : Text) :
    stringPart s? ++ linePart line ≠ .ofChar ' ' :: .ofChar '(' :: y := by
  intro h
  cases s? with
  | none => exact absurd (List.cons.inj (List.cons.inj h).2).1 (by decide)
  | some s => exact quoted_append_ne (by decide) s _ _ (List.cons.inj h).2

/-- A rule in parentheses ends with the first closing parenthesis, and nothing else that follows a
kind opens one. -/
theorem rulePart_inj {r? r'? : Option Text} {x y : Text}
    (hr : ∀ r ∈ r?, .ofChar ')' ∉ r) (hr' : ∀ r ∈ r'?, .ofChar ')' ∉ r)
    (hx : ∀ z, x ≠ .ofChar ' ' :: .ofChar '(' :: z) (hy : ∀ z, y ≠ .ofChar ' ' :: .ofChar '(' :: z)
    (h : rulePart r? ++ x = rulePart r'? ++ y) : r? = r'? ∧ x = y := by
  cases r? with
  | none =>
      cases r'? with
      | none => exact ⟨rfl, h⟩
      | some r' => exact absurd (h.trans (rulePart_some_append r' y)) (hx _)
  | some r =>
      cases r'? with
      | none => exact absurd (h.symm.trans (rulePart_some_append r x)) (hy _)
      | some r' =>
          rw [rulePart_some_append, rulePart_some_append] at h
          obtain ⟨rfl, hxy⟩ :=
            Text.append_cons_inj (hr r rfl) (hr' r' rfl) (List.cons.inj (List.cons.inj h).2).2
          exact ⟨rfl, hxy⟩

theorem exists_render_eq (f : Face) :
    ∃ z, f.render = Text.ofString f.kind.label ++ .ofChar ' ' :: z := by
  obtain ⟨kind, rule?, numeral?, string?, line⟩ := f
  cases rule? with
  | some rule => exact ⟨_, rfl⟩
  | none =>
      cases numeral? with
      | some numeral => exact ⟨_, rfl⟩
      | none =>
          cases string? with
          | some s => exact ⟨_, rfl⟩
          | none => exact ⟨_, rfl⟩

/-- The kind ends with the first blank. -/
theorem kind_eq_of_render_eq {f g : Face} (h : f.render = g.render) : f.kind = g.kind := by
  obtain ⟨x, hx⟩ := f.exists_render_eq
  obtain ⟨y, hy⟩ := g.exists_render_eq
  rw [hx, hy] at h
  have hlabels :=
    (Text.append_cons_inj f.kind.dense_label.blank_notMem g.kind.dense_label.blank_notMem h).1
  exact Kind.label_injective hlabels

theorem head?_render_ne (f : Face) : f.render.head? ≠ some (.ofChar ' ') := by
  intro h
  cases hlabel : Text.ofString f.kind.label with
  | nil => exact f.kind.label_ne_nil hlabel
  | cons c t =>
      rw [render, hlabel, List.cons_append, List.head?_cons] at h
      have hmem : .ofChar ' ' ∈ Text.ofString f.kind.label :=
        hlabel ▸ Option.some.inj h ▸ List.mem_cons_self
      exact f.kind.dense_label.blank_notMem hmem

end Face

namespace Mark

variable {ι κ : Type}

def numeral (m : Mark ι) : Text := m.number?.elim "None" Binary64.decimal

def face (m : Mark ι) : Face where
  kind := m.kind
  rule? := if m.kind = .other then m.rule?.filter (fun rule ↦ !rule.isEmpty) else none
  numeral? := if m.kind = .number then some m.numeral else none
  string? := if m.kind = .number then none else m.string?
  line := m.line

theorem details_eq (m : Mark ι) :
    m.details = Face.rulePart m.face.rule? ++
      (Face.numeralPart m.face.numeral? ++ Face.stringPart m.face.string?) := by
  unfold details
  dsimp only
  congr 1
  · unfold face
    split
    · next rule hkind hrule =>
      rw [if_pos hkind, hrule, Option.filter_some]
      split
      · next hempty => simp [hempty, Face.rulePart]
      · next hempty => simp [hempty, Face.rulePart]
    · next hshown =>
      cases hrule : m.rule? with
      | none => simp [Face.rulePart]
      | some rule =>
          rw [if_neg fun hkind ↦ hshown rule hkind hrule]
          rfl
  · unfold face
    split
    · next hkind => simp [hkind, numeral, Face.numeralPart, Face.stringPart]
    · next hkind =>
      dsimp only
      rw [if_neg hkind, if_neg hkind]
      rfl

theorem render_eq (m : Mark ι) : m.render = m.face.render := by
  simp only [render, details_eq, Text.concat, Face.render, Face.linePart, List.flatten_cons,
    List.append_assoc]
  rfl

theorem dense_numeral (m : Mark ι) : Dense m.numeral := by
  unfold numeral
  cases m.number? with
  | none => decide
  | some x => exact x.dense_decimal

/-- The rule of the node is of one line and holds no closing parenthesis, as words of letters and
underscores do. -/
def PlainRule (m : Mark ι) : Prop := ∀ rule ∈ m.rule?, .lineFeed ∉ rule ∧ .ofChar ')' ∉ rule

instance (m : Mark ι) : Decidable m.PlainRule :=
  inferInstanceAs (Decidable (∀ rule ∈ m.rule?, .lineFeed ∉ rule ∧ .ofChar ')' ∉ rule))

theorem PlainRule.of_mem_face {m : Mark ι} (h : m.PlainRule) {rule : Text}
    (hrule : rule ∈ m.face.rule?) :
    .lineFeed ∉ rule ∧ .ofChar ')' ∉ rule := by
  unfold face at hrule
  split at hrule
  · exact h rule (Option.mem_filter_iff.mp hrule).1
  · cases hrule

theorem face_number {m : Mark ι} (h : m.kind = .number) :
    m.face = ⟨.number, none, some m.numeral, none, m.line⟩ := by
  simp [face, h]

theorem numeral?_face {m : Mark ι} (h : m.kind ≠ .number) : m.face.numeral? = none := if_neg h

/-- A line shows nothing that could be taken for anything else. -/
theorem face_eq_of_render_eq {m : Mark ι} {m' : Mark κ} (hm : m.PlainRule) (hm' : m'.PlainRule)
    (h : m.render = m'.render) : m.face = m'.face := by
  rw [render_eq, render_eq] at h
  have hkind : m.kind = m'.kind := Face.kind_eq_of_render_eq h
  have hlabel : Text.ofString m.face.kind.label = Text.ofString m'.face.kind.label :=
    congrArg (fun k : Kind ↦ Text.ofString k.label) hkind
  rw [Face.render, Face.render, hlabel] at h
  have hdetails := List.append_cancel_left h
  by_cases hnumber : m.kind = .number
  · rw [face_number hnumber, face_number (hkind ▸ hnumber)] at hdetails ⊢
    obtain ⟨hnumeral, hline⟩ := Face.numeralPart_inj m.dense_numeral m'.dense_numeral hdetails
    exact Face.ext rfl rfl (congrArg some hnumeral) rfl hline
  · have hnumber' : m'.kind ≠ .number := hkind ▸ hnumber
    rw [numeral?_face hnumber, numeral?_face hnumber'] at hdetails
    obtain ⟨hrule, hrest⟩ :=
      Face.rulePart_inj (fun _ hr ↦ (hm.of_mem_face hr).2) (fun _ hr ↦ (hm'.of_mem_face hr).2)
      (Face.stringPart_append_ne _ _) (Face.stringPart_append_ne _ _) hdetails
    obtain ⟨hstring, hline⟩ := Face.stringPart_inj hrest
    apply Face.ext
    · exact hkind
    · exact hrule
    · rw [numeral?_face hnumber, numeral?_face hnumber']
    · exact hstring
    · exact hline

theorem lineFeed_notMem_render {m : Mark ι} (hm : m.PlainRule) : .lineFeed ∉ m.render := by
  have hnumeral : ∀ numeral ∈ m.face.numeral?, Dense numeral := by
    intro numeral h
    by_cases hkind : m.kind = .number
    · rw [face_number hkind] at h
      cases h
      exact m.dense_numeral
    · rw [numeral?_face hkind] at h
      cases h
  rw [render_eq, Face.render]
  simp only [List.mem_append, not_or]
  refine ⟨m.face.kind.dense_label.lineFeed_notMem, ?_, ?_, ?_, ?_⟩
  · cases hrule : m.face.rule? with
    | none => exact List.not_mem_nil
    | some rule =>
        have hplain := (hm.of_mem_face hrule).1
        rw [← List.append_nil (Face.rulePart _), Face.rulePart_some_append]
        simpa [hplain] using by decide
  · cases hshown : m.face.numeral? with
    | none => exact List.not_mem_nil
    | some numeral =>
        simpa [Face.numeralPart] using ⟨by decide, (hnumeral numeral hshown).lineFeed_notMem⟩
  · cases m.face.string? with
    | none => exact List.not_mem_nil
    | some s => simpa [Face.stringPart] using ⟨by decide, s.lineFeed_notMem_quoted⟩
  · have hdense := (Text.dense_ofInt m.face.line).lineFeed_notMem
    simpa [Face.linePart, Text.concat, hdense] using by decide

def lineAt (row : Nat × Mark ι) : Text := List.replicate (4 * row.1) (.ofChar ' ') ++ row.2.render

theorem lineFeed_notMem_lineAt {row : Nat × Mark ι} (hm : row.2.PlainRule) :
    .lineFeed ∉ lineAt row := by
  intro hmem
  rcases List.mem_append.mp hmem with hblank | hrender
  · exact absurd (List.eq_of_mem_replicate hblank) (by decide)
  · exact lineFeed_notMem_render hm hrender

/-- The blanks before a line give the depth, since no kind begins with a blank. -/
theorem eq_of_lineAt_eq {row : Nat × Mark ι} {row' : Nat × Mark κ} (hm : row.2.PlainRule)
    (hm' : row'.2.PlainRule) (h : lineAt row = lineAt row') :
    (row.1, row.2.face) = (row'.1, row'.2.face) := by
  have hhead : ∀ {ν : Type} (m : Mark ν), m.render.head? ≠ some (.ofChar ' ') := by
    intro ν m
    rw [render_eq]
    exact m.face.head?_render_ne
  obtain ⟨hdepth, hrender⟩ := Text.replicate_append_inj (hhead row.2) (hhead row'.2) h
  rw [face_eq_of_render_eq hm hm' hrender, Nat.eq_of_mul_eq_mul_left (by decide) hdepth]

end Mark

/-! ### Whole listings -/

variable {ι κ : Type}

/-- The stack of a listing stands for the rows of its trees, one tree after the other. -/
theorem listing_eq (stack : List (Nat × Node ι)) :
    listing stack = (stack.flatMap fun entry ↦ Tree.rows entry.1 entry.2).map Mark.lineAt := by
  fun_induction listing stack with
  | case1 => rfl
  | case2 depth n stack ih =>
      rw [ih, List.flatMap_append, List.flatMap_map, List.flatMap_cons, Tree.rows_eq,
        List.cons_append, List.map_cons]
      rfl

def PlainRules (n : Node ι) : Prop := n.Everywhere fun m _ ↦ m.PlainRule

instance (n : Node ι) : Decidable n.PlainRules :=
  inferInstanceAs (Decidable (n.Everywhere fun m _ ↦ m.PlainRule))

theorem PlainRules.of_mem_rows {n : Node ι} (h : n.PlainRules) {row : Nat × Mark ι}
    (hrow : row ∈ Tree.rows 0 n) :
    row.2.PlainRule := by
  obtain ⟨s, hs, hlabel⟩ := Tree.exists_mem_subtrees_of_mem_rows hrow
  exact hlabel ▸ h s hs

theorem dump_eq (n : Node ι) :
    dump n = Text.join [.lineFeed] ((Tree.rows 0 n).map Mark.lineAt) := by
  rw [dump, listing_eq, List.flatMap_singleton]

/-- No line feed comes from a node, so that the lines of a listing are those of the nodes. -/
theorem splitAt_dump {n : Node ι} (h : n.PlainRules) :
    Text.splitAt .lineFeed (dump n) = (Tree.rows 0 n).map Mark.lineAt := by
  rw [dump_eq]
  apply Text.splitAt_join
  · rw [Tree.rows_eq]
    exact List.cons_ne_nil _ _
  · intro t ht
    obtain ⟨row, hrow, rfl⟩ := List.mem_map.mp ht
    exact Mark.lineFeed_notMem_lineAt (h.of_mem_rows hrow)

theorem rows_map_face_eq {n : Node ι} {other : Node κ} (hn : n.PlainRules)
    (hother : other.PlainRules)
    (h : (Tree.rows 0 n).map Mark.lineAt = (Tree.rows 0 other).map Mark.lineAt) :
    Tree.rows 0 (n.map Mark.face) = Tree.rows 0 (other.map Mark.face) := by
  rw [Tree.rows_map, Tree.rows_map]
  apply List.ext_getElem
  · simpa using congrArg List.length h
  · intro i hi hi'
    rw [List.getElem_map, List.getElem_map]
    apply Mark.eq_of_lineAt_eq (hn.of_mem_rows (List.getElem_mem _))
      (hother.of_mem_rows (List.getElem_mem _))
    have hline := List.getElem_of_eq h (by simpa using hi)
    rwa [List.getElem_map, List.getElem_map] at hline

theorem map_lineAt_rows (n : Node ι) :
    (Tree.rows 0 n).map Mark.lineAt =
      (Tree.rows 0 (n.map Mark.face)).map fun row ↦
        List.replicate (4 * row.1) (.ofChar ' ') ++ row.2.render := by
  rw [Tree.rows_map, List.map_map]
  apply List.map_congr_left
  intro row _
  rw [Mark.lineAt, Mark.render_eq]
  rfl

/-- The listing of a tree is faithful.  It has one line for each node, in the order in which the
nodes are visited, with four blanks for each level.  Two trees have the same listing exactly if they
have the same form and the same is shown of the nodes that correspond to each other. -/
theorem dump_faithful (n : Node ι) (other : Node κ) (hn : n.PlainRules)
    (hother : other.PlainRules) :
    Text.splitAt .lineFeed (dump n) =
        (Tree.rows 0 n).map (fun row ↦ List.replicate (4 * row.1) (.ofChar ' ') ++ row.2.render) ∧
      Tree.rows 0 n = (Place.visits [.root n]).map (fun p ↦ (p.ancestors.length, p.tree.label)) ∧
      (dump n = dump other ↔ n.map Mark.face = other.map Mark.face) := by
  refine ⟨splitAt_dump hn, ?_, ?_, ?_⟩
  · rw [Place.visits_eq_flatMap, List.flatMap_singleton, Tree.map_preorder_place]
    rfl
  · intro h
    have hlines := congrArg (Text.splitAt .lineFeed) h
    rw [splitAt_dump hn, splitAt_dump hother] at hlines
    exact Tree.rows_inj (rows_map_face_eq hn hother hlines)
  · intro h
    rw [dump_eq, dump_eq, map_lineAt_rows, map_lineAt_rows, h]

/-- A node whose text would, but for the quotes, go on as the line of a child. -/
def imitation : Node Unit :=
  .node ⟨.other, [], 1, some "a' [line 1]\n    NAME 'b", none, some "statement_block", ()⟩ []

def imitated : Node Unit :=
  .node ⟨.other, [], 1, some "a", none, some "statement_block", ()⟩
    [.node ⟨.name, [], 1, some "b", none, none, ()⟩ []]

theorem dump_faithful_imitation :
    imitation.PlainRules ∧ imitated.PlainRules ∧
      (Text.splitAt .lineFeed (dump imitation)).length = 1 ∧
      dump imitation ≠ dump imitated := by
  have hplain : imitation.PlainRules := by decide
  have hplain' : imitated.PlainRules := by decide
  obtain ⟨hlines, -, hsame⟩ := dump_faithful imitation imitated hplain hplain'
  refine ⟨hplain, hplain', ?_, ?_⟩
  · rw [hlines]
    rfl
  · intro h
    cases congrArg (fun t ↦ t.children.length) (hsame.mp h)

end Node

end CallAudit
