import Mathlib.Logic.Relation
import Stencil.Proofs.Value.Shown
import Stencil.Proofs.Value.Sorted

/-! # What the text of a value depends on

A value is shown by what lies inside of it: the values it holds, those that these
hold, and so on. Two stores that agree on these show it the same, whatever else
is in them. As counts are shown in their order, which comes from comparing them,
this goes for comparisons as well, and these go as deep as there are cells.
-/

namespace Stencil

/-- The values in a cell. What an object with behaviour of its own keeps to itself is none of
    them. -/
def Cell.values : Cell → List Value
  | list xs | tuple xs | set _ xs | deque xs _ | record _ xs => xs
  | array _ xs => xs.map .scalar
  | wrappedList a | wrappedMap a | proxy a => [.ref a]
  | map _ es => es.flatMap fun e => [e.1, e.2]
  | bag es | namedTuple _ es => es.map (·.2)
  | function _ | custom _ => []

namespace Store

/-- The values that a value holds itself. -/
def held (s : Store) : Value → List Value
  | .ref a => (s[a]?.map Cell.values).getD []
  | .view _ a => [.ref a]
  | .method owner _ => [owner]
  | _ => []

/-- A value is inside another one: held by it, or by a value inside of it. A value is inside of
    itself. -/
def Within (s : Store) : Value → Value → Prop := Relation.ReflTransGen fun v w => w ∈ s.held v

variable {s s' : Store} {P : Value → Prop}

/-! ## What is inside of a cell -/

/-- What holds of a value and of all that is held by what it holds of, holds of all that is inside. -/
theorem Within.closed {v w} (inside : s.Within v w) (hv : P v)
    (step : ∀ v w, P v → w ∈ s.held v → P w) : P w := by
  induction inside with
  | refl => exact hv
  | tail _ last ih => exact step _ _ ih last

theorem within_value {a c w} (cell : s[a]? = some c) (hw : w ∈ c.values) :
    s.Within (.ref a) w := by
  apply Relation.ReflTransGen.single
  rw [held, cell]
  exact hw

theorem mem_values_map {style es} {e : Value × Value} (he : e ∈ es) :
    e.1 ∈ (Cell.map style es).values ∧ e.2 ∈ (Cell.map style es).values := by
  constructor
  · exact List.mem_flatMap.mpr ⟨e, he, List.mem_cons_self⟩
  · exact List.mem_flatMap.mpr ⟨e, he, List.mem_cons_of_mem _ List.mem_cons_self⟩

theorem mem_getD {α : Type} {xs : Option (List α)} {x : α} (hx : x ∈ xs.getD []) :
    ∃ ys, xs = some ys ∧ x ∈ ys := by
  cases xs with
  | none => cases hx
  | some ys => exact ⟨ys, rfl, hx⟩

theorem within_entries {a c es} (cell : s[a]? = some c) (found : c.entries? s = some es) :
    ∀ e ∈ es, s.Within (.ref a) e.1 ∧ s.Within (.ref a) e.2 := by
  intro e he
  cases c with
  | map =>
      cases found
      exact ⟨within_value cell (mem_values_map he).1, within_value cell (mem_values_map he).2⟩
  | wrappedMap d | proxy d =>
      have target := within_value cell List.mem_cons_self
      rw [Cell.entries?] at found
      split at found
      · rename_i data
        cases found
        exact ⟨target.trans (within_value data (mem_values_map he).1),
          target.trans (within_value data (mem_values_map he).2)⟩
      · cases found
  | list | tuple | deque | array | namedTuple | wrappedList | set | bag | record | function
  | custom => cases found

theorem within_sequence {a c k xs} (cell : s[a]? = some c)
    (found : c.sequence? s = some (k, xs)) : ∀ x ∈ xs, s.Within (.ref a) x := by
  intro x hx
  cases c with
  | list | tuple | deque | array | namedTuple =>
      cases found
      exact within_value cell hx
  | wrappedList d =>
      have target := within_value cell List.mem_cons_self
      rw [Cell.sequence?] at found
      split at found
      · rename_i data
        cases found
        exact target.trans (within_value data hx)
      · cases found
  | set | map | wrappedMap | proxy | bag | record | function | custom => cases found

/-! ## Agreement -/

/-- Two stores of one size with the same cells at some values, together with all that is inside of
    these. -/
structure AgreeOn (s s' : Store) (P : Value → Prop) : Prop where
  size : s'.length = s.length
  held : ∀ v w, P v → w ∈ s.held v → P w
  cells : ∀ a, P (.ref a) → s'[a]? = s[a]?

theorem AgreeOn.within (h : s.AgreeOn s' P) {v w} (hv : P v) (inside : s.Within v w) : P w :=
  inside.closed hv h.held

theorem AgreeOn.values (h : s.AgreeOn s' P) {a c} (here : P (.ref a)) (cell : s[a]? = some c) :
    ∀ w ∈ c.values, P w := fun _ hw => h.within here (within_value cell hw)

theorem AgreeOn.sequence (h : s.AgreeOn s' P) {c : Cell} (inside : ∀ w ∈ c.values, P w) :
    c.sequence? s' = c.sequence? s := by
  cases c with
  | wrappedList a => rw [Cell.sequence?, Cell.sequence?, h.cells a (inside _ List.mem_cons_self)]
  | _ => rfl

theorem AgreeOn.entries (h : s.AgreeOn s' P) {c : Cell} (inside : ∀ w ∈ c.values, P w) :
    c.entries? s' = c.entries? s := by
  cases c with
  | wrappedMap a | proxy a =>
      rw [Cell.entries?, Cell.entries?, h.cells a (inside _ List.mem_cons_self)]
  | _ => rfl

/-! ## Comparisons -/

theorem equalLists_congr {eq eq' : Value → Value → Bool} {xs ys : List Value}
    (same : ∀ x ∈ xs, ∀ y ∈ ys, eq x y = eq' x y) : equalLists eq xs ys = equalLists eq' xs ys := by
  induction xs generalizing ys with
  | nil => cases ys <;> rfl
  | cons x xs ih =>
      cases ys with
      | nil => rfl
      | cons y ys =>
          rw [equalLists, equalLists, same x List.mem_cons_self y List.mem_cons_self,
            ih fun x hx y hy => same x (List.mem_cons_of_mem _ hx) y (List.mem_cons_of_mem _ hy)]

theorem all_any_congr {α : Type} {p q : α → α → Bool} {xs ys : List α}
    (same : ∀ x ∈ xs, ∀ y ∈ ys, p x y = q x y) :
    (xs.all fun x => ys.any fun y => p x y) = xs.all fun x => ys.any fun y => q x y := by
  rw [Bool.eq_iff_iff]
  simp only [List.all_eq_true, List.any_eq_true]
  refine forall₂_congr fun x hx => exists_congr fun y => and_congr_right fun hy => ?_
  rw [same x hx y hy]

/-- Two comparisons that agree on the images of members agree on the members of the images. -/
theorem same_map {α β : Type} {cmp cmp' : Value → Value → β} {g : α → Value} {es fs : List α}
    (same : ∀ e ∈ es, ∀ f ∈ fs, cmp (g e) (g f) = cmp' (g e) (g f)) :
    ∀ x ∈ es.map g, ∀ y ∈ fs.map g, cmp x y = cmp' x y := by
  intro x hx y hy
  obtain ⟨e, he, rfl⟩ := List.mem_map.mp hx
  obtain ⟨f, hf, rfl⟩ := List.mem_map.mp hy
  exact same e he f hf

/-- Equality looks at nothing but what is inside of the two values, at every depth. -/
theorem equalWithin_agree (h : s.AgreeOn s' P) (depth : Nat) {v w} (hv : P v) (hw : P w) :
    equalWithin s' depth v w = equalWithin s depth v w := by
  induction depth generalizing v w with
  | zero => rfl
  | succ depth ih =>
      unfold equalWithin
      split
      · rename_i a b
        have members {c d} (here : s[a]? = some c) (there : s[b]? = some d) :
            ∀ x ∈ c.values, ∀ y ∈ d.values,
              equalWithin s' depth x y = equalWithin s depth x y :=
          fun x hx y hy => ih (h.values hv here x hx) (h.values hw there y hy)
        rw [h.cells a hv, h.cells b hw]
        split
        · rfl
        · split
          -- sets
          · rename_i here there
            exact congrArg (_ && ·) (all_any_congr (members here there))
          -- ordered mappings
          · rename_i here there
            refine congrArg₂ (· && ·) (equalLists_congr (same_map fun e he f hf => ?_))
              (equalLists_congr (same_map fun e he f hf => ?_))
            · exact members here there _ (mem_values_map he).1 _ (mem_values_map hf).1
            · exact members here there _ (mem_values_map he).2 _ (mem_values_map hf).2
          -- namespaces
          · rename_i here there
            refine congrArg (_ && ·) (all_any_congr fun e he f hf => congrArg (_ && ·) ?_)
            exact members here there _ (List.mem_map_of_mem he) _ (List.mem_map_of_mem hf)
          -- records
          · rename_i here there
            exact congrArg (_ && ·) (equalLists_congr (members here there))
          -- sequences, and mappings of other kinds
          · rename_i c d _ _ _ _ here there
            have inside := h.values hv here
            have inside' := h.values hw there
            rw [h.sequence inside, h.sequence inside', h.entries inside, h.entries inside']
            dsimp only
            split
            · rename_i found found'
              refine congrArg (_ && ·) (equalLists_congr fun x hx y hy => ih ?_ ?_)
              · exact h.within hv (within_sequence here found x hx)
              · exact h.within hw (within_sequence there found' y hy)
            · split
              · rename_i found found'
                refine congrArg (_ && ·) (all_any_congr fun e he f hf => ?_)
                obtain ⟨key, value⟩ := within_entries here found e he
                obtain ⟨key', value'⟩ := within_entries there found' f hf
                rw [ih (h.within hv key) (h.within hw key'),
                  ih (h.within hv value) (h.within hw value')]
              · rfl
          · rfl
      · rfl
      · rfl

theorem lessLists_congr {eq eq' : Value → Value → Bool} {less less' : Value → Value → Option Bool}
    {xs ys : List Value} (sameEq : ∀ x ∈ xs, ∀ y ∈ ys, eq x y = eq' x y)
    (sameLess : ∀ x ∈ xs, ∀ y ∈ ys, less x y = less' x y) :
    lessLists eq less xs ys = lessLists eq' less' xs ys := by
  induction xs generalizing ys with
  | nil => cases ys <;> rfl
  | cons x xs ih =>
      cases ys with
      | nil => rfl
      | cons y ys =>
          rw [lessLists, lessLists, sameEq x List.mem_cons_self y List.mem_cons_self,
            sameLess x List.mem_cons_self y List.mem_cons_self]
          congr 1
          exact ih (fun x hx y hy => sameEq x (List.mem_cons_of_mem _ hx) y (List.mem_cons_of_mem _ hy))
            fun x hx y hy => sameLess x (List.mem_cons_of_mem _ hx) y (List.mem_cons_of_mem _ hy)

theorem equal_agree (h : s.AgreeOn s' P) {v w} (hv : P v) (hw : P w) :
    s'.equal v w = s.equal v w := by
  rw [Store.equal, Store.equal, h.size]
  exact equalWithin_agree h _ hv hw

theorem lessWithin_agree (h : s.AgreeOn s' P) (depth : Nat) {v w} (hv : P v) (hw : P w) :
    lessWithin s' depth v w = lessWithin s depth v w := by
  induction depth generalizing v w with
  | zero => rfl
  | succ depth ih =>
      unfold lessWithin
      split
      · rfl
      · rfl
      · rename_i a b
        rw [h.cells a hv, h.cells b hw]
        split
        · rename_i here there
          refine congrArg some (congrArg (_ && ·) (all_any_congr fun x hx y hy => ?_))
          exact equalWithin_agree h depth (h.values hv here x hx) (h.values hw there y hy)
        · rename_i c d _ here there
          rw [h.sequence (h.values hv here), h.sequence (h.values hw there)]
          split
          · rename_i found found'
            have inside x hx := h.within hv (within_sequence here found x hx)
            have inside' y hy := h.within hw (within_sequence there found' y hy)
            congr 1
            exact lessLists_congr (fun x hx y hy => equal_agree h (inside x hx) (inside' y hy))
              fun x hx y hy => ih (inside x hx) (inside' y hy)
          · rfl
        · rfl
      · rfl

theorem less_agree (h : s.AgreeOn s' P) {v w} (hv : P v) (hw : P w) :
    s'.less? v w = s.less? v w := by
  rw [Store.less?, Store.less?, h.size]
  exact lessWithin_agree h _ hv hw

/-! ## Text -/

theorem byCount_agree (h : s.AgreeOn s' P) {es : List (Value × Value)}
    (inside : ∀ e ∈ es, P e.2) : Cell.byCount s' es = Cell.byCount s es := by
  rw [Cell.byCount, Cell.byCount, sortItems_congr]
  intro e he f hf
  exact less_agree h (inside e (List.mem_reverse.mp he)) (inside f (List.mem_reverse.mp hf))

theorem mem_byCount {es : List (Value × Value)} {e} (he : e ∈ (Cell.byCount s es).getD es) :
    e ∈ es := by
  have kept := sortItems_perm (fun e f : Value × Value => s.less? e.2 f.2) es.reverse
  unfold Cell.byCount at he
  split at he
  · rename_i sorted ordered
    rw [ordered] at kept
    rw [Option.getD_some, List.mem_reverse, kept.mem_iff, List.mem_reverse] at he
    exact he
  · exact he

theorem mapM_congr {α ε : Type} {f g : α → Except ε Text} {xs : List α}
    (same : ∀ x ∈ xs, f x = g x) : xs.mapM f = xs.mapM g := by
  induction xs with
  | nil => rfl
  | cons x xs ih =>
      rw [List.mapM_cons, List.mapM_cons, same x List.mem_cons_self,
        ih fun y hy => same y (List.mem_cons_of_mem _ hy)]

section

variable {tell tell' : Value → Except Fault Text}

theorem displayEntries_congr {es : List (Value × Value)}
    (same : ∀ e ∈ es, tell' e.1 = tell e.1 ∧ tell' e.2 = tell e.2) :
    Cell.displayEntries tell' es = Cell.displayEntries tell es := by
  rw [Cell.displayEntries, Cell.displayEntries]
  refine congrArg (· >>= _) (mapM_congr fun e he => ?_)
  rw [(same e he).1, (same e he).2]

theorem displayFields_congr (name : Text) {es : List (Text × Value)}
    (same : ∀ e ∈ es, tell' e.2 = tell e.2) :
    Cell.displayFields tell' name es = Cell.displayFields tell name es := by
  rw [Cell.displayFields, Cell.displayFields]
  refine congrArg (· >>= _) (mapM_congr fun e he => ?_)
  rw [same e he]

theorem pairText_congr {e : Value × Value} (same : tell' e.1 = tell e.1 ∧ tell' e.2 = tell e.2) :
    Cell.pairText tell' e = Cell.pairText tell e := by
  rw [Cell.pairText, Cell.pairText, same.1, same.2]

/-- The content of a cell is shown the same when the values in it are and when counts keep their
    order. -/
theorem displayWith_agree (h : s.AgreeOn s' P) {c : Cell} (inside : ∀ w ∈ c.values, P w)
    (same : ∀ w ∈ c.values, tell' w = tell w) : c.displayWith s' tell' = c.displayWith s tell := by
  cases c with
  | list xs | tuple xs | set frozen xs | deque xs => exact congrArg (· >>= _) (mapM_congr same)
  | wrappedList a | wrappedMap a => exact same _ List.mem_cons_self
  | proxy a => rw [Cell.displayWith, Cell.displayWith, same _ List.mem_cons_self]
  | map style es =>
      have both : ∀ e ∈ es, tell' e.1 = tell e.1 ∧ tell' e.2 = tell e.2 := fun e he =>
        ⟨same _ (mem_values_map he).1, same _ (mem_values_map he).2⟩
      cases style with
      | plain => exact displayEntries_congr both
      | ordered =>
          have parts := mapM_congr fun e he => pairText_congr (both e he)
          rw [Cell.displayWith, Cell.displayWith, parts]
      | counting =>
          have order : Cell.byCount s' es = Cell.byCount s es :=
            byCount_agree h fun e he => inside _ (mem_values_map he).2
          rw [Cell.displayWith, Cell.displayWith, order,
            displayEntries_congr fun e he => both e (mem_byCount he)]
      | defaulting => rw [Cell.displayWith, Cell.displayWith, displayEntries_congr both]
  | bag es | namedTuple name es =>
      exact displayFields_congr _ fun e he => same _ (List.mem_map_of_mem he)
  | record t xs =>
      refine displayFields_congr _ fun e he => ?_
      obtain ⟨f, hf, rfl⟩ := List.mem_map.mp he
      exact same _ (List.of_mem_zip (List.mem_of_mem_filter hf)).2
  | array | function | custom => rfl

theorem viewName_agree (h : s.AgreeOn s' P) {a} (here : P (.ref a)) (kind : ViewKind) :
    Value.viewName s' kind a = Value.viewName s kind a := by
  unfold Value.viewName
  rw [h.cells a here]

theorem displayView_agree (h : s.AgreeOn s' P) {a} (here : P (.ref a)) (kind : ViewKind)
    (same : ∀ w, P w → tell' w = tell w) :
    displayView s' tell' kind a = displayView s tell kind a := by
  unfold displayView
  rw [viewName_agree h here, h.cells a here]
  dsimp only
  split
  · rename_i data cell
    rw [same _ (h.values here cell _ List.mem_cons_self)]
  · rename_i c _ cell
    rw [h.entries (h.values here cell)]
    refine congrArg (· >>= _) (mapM_congr fun e he => ?_)
    obtain ⟨es, found, he⟩ := mem_getD he
    obtain ⟨key, value⟩ := within_entries cell found e he
    have sameKey := same _ (h.within here key)
    have sameValue := same _ (h.within here value)
    cases kind with
    | keys => exact sameKey
    | values => exact sameValue
    | items => exact pairText_congr ⟨sameKey, sameValue⟩
  · rfl

end

theorem displayFrom_view {active since kind a c} (cell : s[a]? = some c) :
    displayFrom s active since (.view kind a) =
      if a ∈ since then .error .descent
      else displayView s (fun w => displayFrom s active (a :: since) w) kind a := by
  rw [displayFrom]
  split
  · rename_i none
    cases cell.symm.trans none
  · rfl

theorem displayFrom_absent {active since a} (absent : s[a]? = none) :
    displayFrom s active since (.ref a) = .ok [] ∧
      ∀ kind, displayFrom s active since (.view kind a) = .ok [] := by
  constructor
  · rw [displayFrom]
    split
    · rfl
    · rename_i found
      cases absent.symm.trans found
  · intro kind
    rw [displayFrom]
    split
    · rfl
    · rename_i found
      cases absent.symm.trans found

/-- What is inside of a value says how it is shown. -/
theorem displayFrom_agree (h : s.AgreeOn s' P) {active since v} (hv : P v) :
    displayFrom s' active since v = displayFrom s active since v := by
  fun_induction displayFrom s active since v with
  | case1 | case2 | case4 | case5 | case6 => rw [displayFrom]
  | case3 =>
      rw [displayFrom]
      rfl
  | case7 active since kind a absent =>
      have here := h.cells a (h.held _ _ hv List.mem_cons_self)
      exact (displayFrom_absent (here.trans absent)).2 kind
  | case8 active since kind a c cell inside =>
      have here := h.cells a (h.held _ _ hv List.mem_cons_self)
      rw [displayFrom_view (here.trans cell), if_pos inside]
  | case9 active since kind a c cell outside ih =>
      have target : P (.ref a) := h.held _ _ hv List.mem_cons_self
      rw [displayFrom_view ((h.cells a target).trans cell), if_neg outside]
      exact displayView_agree h target kind ih
  | case10 active since a absent => exact (displayFrom_absent ((h.cells a hv).trans absent)).1
  | case11 active since a c cell guarded inside =>
      rw [displayFrom_cell ((h.cells a hv).trans cell), if_pos guarded, if_pos inside]
  | case12 active since a c cell guarded outside ih =>
      rw [displayFrom_cell ((h.cells a hv).trans cell), if_pos guarded, if_neg outside]
      exact displayWith_agree h (h.values hv cell) fun w hw => ih w (h.values hv cell w hw)
  | case13 active since a c cell unguarded inside =>
      rw [displayFrom_cell ((h.cells a hv).trans cell), if_neg unguarded, if_pos inside]
  | case14 active since a c cell unguarded outside ih =>
      rw [displayFrom_cell ((h.cells a hv).trans cell), if_neg unguarded, if_neg outside]
      exact displayWith_agree h (h.values hv cell) fun w hw => ih w (h.values hv cell w hw)

theorem typeName_agree (h : s.AgreeOn s' P) {v} (hv : P v) : v.typeName s' = v.typeName s := by
  unfold Value.typeName Value.typeNames
  cases v with
  | ref a =>
      dsimp only
      rw [h.cells a hv]
  | view kind a => exact viewName_agree h (h.held _ _ hv List.mem_cons_self) kind
  | method owner name =>
      have known : P owner := h.held _ _ hv List.mem_cons_self
      cases owner with
      | ref a =>
          unfold Value.methodTypeName
          dsimp only
          rw [h.cells a known]
      | _ => rfl
  | _ => rfl

/-- Stores that agree on a value and on all that is inside of it show it the same, failures
    included. -/
theorem safeDisplay_agree (h : s.AgreeOn s' P) {v} (hv : P v) :
    s'.safeDisplay v = s.safeDisplay v := by
  rw [safeDisplay, safeDisplay, display, display, displayFrom_agree h hv, typeName_agree h hv]

end Store

end Stencil
