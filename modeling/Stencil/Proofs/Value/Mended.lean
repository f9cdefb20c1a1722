import Stencil.Directive
import Stencil.Proofs.Value.Corresponding
import Stencil.Proofs.Value.Frame
import Stencil.Proofs.Value.Indented

/-! # Failures that stay in their place

A value whose text fails is shown by a short note of the failure. Where such
values are elements of containers and nowhere else, this is all that their failing
does: an expansion is the one of a store in which every one of them is replaced by
an object that shows the note as its text. Containers may be shared and may lie
inside of themselves.
-/

namespace Stencil

/-- The content of a cell with other values in the place of its elements: the items of a container
    and the values, but not the keys, of a mapping. -/
def Cell.mapItems (f : Value → Value) : Cell → Cell
  | list xs => list (xs.map f)
  | tuple xs => tuple (xs.map f)
  | set frozen xs => set frozen (xs.map f)
  | deque xs maxLength => deque (xs.map f) maxLength
  | map style es => map style (es.map fun e => (e.1, f e.2))
  | namedTuple name es => namedTuple name (es.map fun e => (e.1, f e.2))
  | record t xs => record t (xs.map f)
  | c => c

/-- A shape with other values behind its labels. -/
def Shape.mapValues (f : Value → Value) (shape : Shape) : Shape :=
  { shape with entries := shape.entries.map fun e => (e.1, f e.2) }

namespace Store

/-- Nothing broken is inside of a value. -/
def Clear (s : Store) (broken : Value → Prop) (v : Value) : Prop :=
  ∀ w, s.Within v w → ¬ broken w

/-- Below a root, broken values are elements of containers only: nothing broken is inside of the
    other values on one line, nor of the keys of mappings. -/
structure Confined (s : Store) (broken : Value → Prop) (root : Value) : Prop where
  lines : ∀ path v, s.follow root path = some v → s.container? v = none → broken v ∨
    s.Clear broken v
  keys : ∀ path a c es, s.follow root path = some (.ref a) → s[a]? = some c →
    c.entries? s = some es → ∀ e ∈ es, s.Clear broken e.1

/-- A store in which an object is in the place of each broken value of another one and shows the
    note of its failure. Broken values are none that are shown over several lines, and their texts
    fail. All else that is inside of the root is kept. -/
structure Mends (s s' : Store) (root : Value) (broken : Value → Prop)
    (standIn : Value → Value) : Prop where
  /-- Comparisons go as deep as there are cells. -/
  size : s'.length = s.length
  fails : ∀ v, broken v → s.container? v = none ∧ ∃ f a o, s.display v = .error f ∧
    standIn v = .ref a ∧ s'[a]? = some (.custom o) ∧
    o.shown = .plain ("<" ++ v.typeName s ++ " object (repr failed: " ++ f.kind.name ++ ")>")
  /-- Cells are replaced where they are; only what is none of its own needs the place of another. -/
  inPlace : ∀ a, standIn (.ref a) = .ref a
  keeps : ∀ v, ¬ broken v → standIn v = v
  cells : ∀ a, s.Within root (.ref a) → ¬ broken (.ref a) →
    s'[a]? = s[a]?.map (Cell.mapItems standIn)

variable {s s' : Store} {root : Value} {broken : Value → Prop} {standIn : Value → Value}

/-- A value that holds nothing is clear unless it is broken itself. -/
theorem Clear.of_bare {v} (bare : s.held v = []) (kept : ¬ broken v) : s.Clear broken v := by
  intro w reached
  have same : w = v := by
    refine reached.closed (P := fun w => w = v) rfl fun u w hu hw => ?_
    rw [hu, bare] at hw
    cases hw
  rw [same]
  exact kept

/-! ## Elements are inside of their containers -/

theorem within_items {a c xs} (cell : s[a]? = some c) (found : c.listItems? s = some xs) :
    ∀ x ∈ xs, s.Within (.ref a) x := by
  intro x hx
  cases c with
  | list | deque | array =>
      cases found
      exact within_value cell hx
  | wrappedList d =>
      have target := within_value cell List.mem_cons_self
      rw [Cell.listItems?] at found
      split at found
      · rename_i data
        cases found
        exact target.trans (within_value data hx)
      · cases found
        cases hx
  | tuple | set | map | wrappedMap | proxy | bag | namedTuple | record | function | custom =>
      cases found

theorem within_entry {v a shape} (found : s.container? v = some (a, shape))
    {e : Text × Value} (he : e ∈ shape.entries) : s.Within v e.2 := by
  obtain ⟨rfl, c, cell, shaped⟩ := container?_some found
  cases c with
  | list | deque | array | wrappedList =>
      cases shaped
      obtain ⟨x, hx, rfl⟩ := List.mem_map.mp he
      obtain ⟨xs, items, hx⟩ := mem_getD hx
      exact within_items cell items x hx
  | map | wrappedMap | proxy =>
      cases shaped
      obtain ⟨f, hf, rfl⟩ := List.mem_map.mp he
      obtain ⟨es, entries, hf⟩ := mem_getD hf
      exact (within_entries cell entries f hf).2
  | tuple | set =>
      cases shaped
      obtain ⟨x, hx, rfl⟩ := List.mem_map.mp he
      exact within_value cell hx
  | namedTuple =>
      cases shaped
      obtain ⟨f, hf, rfl⟩ := List.mem_map.mp he
      exact within_value cell (List.mem_map.mpr ⟨f, hf, rfl⟩)
  | record =>
      cases shaped
      obtain ⟨g, hg, rfl⟩ := List.mem_map.mp he
      obtain ⟨f, hf, rfl⟩ := List.mem_map.mp hg
      exact within_value cell (List.of_mem_zip (List.mem_of_mem_filter hf)).2
  | bag | function | custom => cases shaped

theorem within_follow {path v} (reached : s.follow root path = some v) : s.Within root v :=
  follow_closed (fun _ _ _ inside found _ he => inside.trans (within_entry found he)) .refl reached

/-! ## What is kept -/

/-- The values at a root that have nothing broken inside of them. -/
abbrev Sound (s : Store) (root : Value) (broken : Value → Prop) (v : Value) : Prop :=
  s.Within root v ∧ s.Clear broken v

theorem mapItems_fixed {f : Value → Value} {c : Cell} (fixed : ∀ v ∈ c.values, f v = v) :
    c.mapItems f = c := by
  cases c with
  | list xs | tuple xs | set _ xs | deque xs | record _ xs =>
      have same : xs.map f = xs := (List.map_congr_left fixed).trans (List.map_id xs)
      rw [Cell.mapItems, same]
  | map style es =>
      have same : es.map (fun e => (e.1, f e.2)) = es := by
        refine (List.map_congr_left fun e he => ?_).trans (List.map_id es)
        rw [fixed _ (mem_values_map he).2]
        rfl
      rw [Cell.mapItems, same]
  | namedTuple name es =>
      have same : es.map (fun e => (e.1, f e.2)) = es := by
        refine (List.map_congr_left fun e he => ?_).trans (List.map_id es)
        rw [fixed _ (List.mem_map_of_mem he)]
        rfl
      rw [Cell.mapItems, same]
  | array | wrappedList | wrappedMap | proxy | bag | function | custom => rfl

theorem Mends.agree (mended : s.Mends s' root broken standIn) :
    s.AgreeOn s' (s.Sound root broken) where
  size := mended.size
  held v w hv hw := ⟨hv.1.tail hw, fun u hu => hv.2 u (.head hw hu)⟩
  cells a here := by
    rw [mended.cells a here.1 (here.2 _ .refl)]
    cases cell : s[a]? with
    | none => rfl
    | some c =>
        refine congrArg some (mapItems_fixed fun v hv => mended.keeps v ?_)
        exact here.2 v (within_value cell hv)

/-! ## A store with notes in it -/

/-- An object named as the type of a value, whose text is what is shown of the value. -/
def note (s : Store) (v : Value) : Custom :=
  ⟨v.typeName s, .plain (s.safeDisplay v), none, none, [], [], none, none⟩

/-- The store with the note of each broken cell in its place. -/
def mend (s : Store) (broken : Value → Prop) [DecidablePred broken] : Store :=
  s.mapIdx fun a c => if broken (.ref a) then .custom (s.note (.ref a)) else c

/-- Broken cells can be mended where they are, in every store. -/
theorem mend_mends [DecidablePred broken] (objects : ∀ v, broken v → ∃ a, v = .ref a)
    (plain : ∀ v, broken v → s.container? v = none)
    (fails : ∀ v, broken v → ∃ f, s.display v = .error f) (root : Value) :
    s.Mends (s.mend broken) root broken id where
  size := List.length_mapIdx
  fails v bad := by
    obtain ⟨a, rfl⟩ := objects v bad
    obtain ⟨f, failed⟩ := fails _ bad
    refine ⟨plain _ bad, f, a, s.note (.ref a), failed, rfl, ?_, ?_⟩
    · cases cell : s[a]? with
      | none => cases (displayFrom_absent cell).1.symm.trans failed
      | some c => rw [mend, List.getElem?_mapIdx, cell, Option.map_some, if_pos bad]
    · rw [note, safeDisplay, failed]
  inPlace _ := rfl
  keeps _ _ := rfl
  cells a _ kept := by
    rw [mend, List.getElem?_mapIdx]
    refine congrArg (s[a]?.map ·) (funext fun c => ?_)
    rw [if_neg kept]
    exact (mapItems_fixed fun _ _ => rfl).symm

/-! ## Containers -/

/-- Broken values are no containers, and no containers are put in their place. -/
theorem Mends.cell (mended : s.Mends s' root broken standIn) {a}
    (here : s.Within root (.ref a)) :
    s'[a]? = s[a]?.map (Cell.mapItems standIn) ∨
      (∃ o, s'[a]? = some (.custom o)) ∧ ∀ c, s[a]? = some c → c.shape? s = none := by
  by_cases h : broken (.ref a)
  · obtain ⟨plain, f, b, o, -, there, cell, -⟩ := mended.fails _ h
    cases (mended.inPlace a).symm.trans there
    refine .inr ⟨⟨o, cell⟩, fun c found => ?_⟩
    rw [container?, found, Option.bind_some, Option.map_eq_none_iff] at plain
    exact plain
  · exact .inl (mended.cells a here h)

theorem Mends.scalar (mended : s.Mends s' root broken standIn) (x : Scalar) :
    standIn (.scalar x) = .scalar x := by
  apply mended.keeps
  intro h
  obtain ⟨-, f, a, o, failed, -⟩ := mended.fails _ h
  rw [display, displayFrom] at failed
  cases failed

theorem Mends.listItems (mended : s.Mends s' root broken standIn) {a c}
    (here : s.Within root (.ref a)) (cell : s[a]? = some c) :
    (c.mapItems standIn).listItems? s' = (c.listItems? s).map (List.map standIn) := by
  cases c with
  | array code xs =>
      rw [Cell.listItems?, Option.map_some, List.map_map]
      exact congrArg some (List.map_congr_left fun x _ => (mended.scalar x).symm)
  | wrappedList d =>
      change (Cell.wrappedList d).listItems? s' = _
      rw [Cell.listItems?, Cell.listItems?]
      rcases mended.cell (here.trans (within_value cell List.mem_cons_self)) with
        same | ⟨⟨o, other⟩, plain⟩
      · rw [same]
        cases s[d]? with
        | none => rfl
        | some c => cases c <;> rfl
      · rw [other]
        cases data : s[d]? with
        | none => rfl
        | some c =>
            cases c with
            | list => cases plain _ data
            | _ => rfl
  | _ => rfl

theorem Mends.entries (mended : s.Mends s' root broken standIn) {a c}
    (here : s.Within root (.ref a)) (cell : s[a]? = some c) :
    (c.mapItems standIn).entries? s' =
      (c.entries? s).map fun es => es.map fun e => (e.1, standIn e.2) := by
  cases c with
  | wrappedMap d | proxy d =>
      change (Cell.proxy d).entries? s' = ((Cell.proxy d).entries? s).map _
      rw [Cell.entries?, Cell.entries?]
      rcases mended.cell (here.trans (within_value cell List.mem_cons_self)) with
        same | ⟨⟨o, other⟩, plain⟩
      · rw [same]
        cases s[d]? with
        | none => rfl
        | some c => cases c <;> rfl
      · rw [other]
        cases data : s[d]? with
        | none => rfl
        | some c =>
            cases c with
            | map => cases plain _ data
            | _ => rfl
  | _ => rfl

theorem mapValues_items (f : Value → Value) (opening closing : Text) (xs : List Value) :
    (Shape.ofItems opening closing xs).mapValues f = .ofItems opening closing (xs.map f) := by
  simp [Shape.mapValues, Shape.ofItems]

theorem mapValues_set (f : Value → Value) (name : Text) (xs : List Value) :
    (Shape.ofSet name xs).mapValues f = .ofSet name (xs.map f) := by
  simp [Shape.mapValues, Shape.ofSet]

theorem mapValues_fields (f : Value → Value) (name : Text) (es : List (Text × Value)) :
    (Shape.ofFields name es).mapValues f = .ofFields name (es.map fun e => (e.1, f e.2)) := by
  simp [Shape.mapValues, Shape.ofFields]

theorem mapValues_entries (f : Value → Value) {es : List (Value × Value)}
    (keys : ∀ e ∈ es, s'.safeDisplay e.1 = s.safeDisplay e.1) :
    (Shape.ofEntries s es).mapValues f = .ofEntries s' (es.map fun e => (e.1, f e.2)) := by
  simp only [Shape.mapValues, Shape.ofEntries, List.map_map, Shape.mk.injEq, true_and, and_true]
  refine List.map_congr_left fun e he => ?_
  simp [keys e he]

/-- The shape of a cell does not say which values are behind its labels. -/
theorem Mends.shape (mended : s.Mends s' root broken standIn) {a c}
    (here : s.Within root (.ref a)) (cell : s[a]? = some c)
    (keys : ∀ e ∈ (c.entries? s).getD [], s'.safeDisplay e.1 = s.safeDisplay e.1) :
    (c.mapItems standIn).shape? s' = (c.shape? s).map (Shape.mapValues standIn) := by
  have items := mended.listItems here cell
  have entries := mended.entries here cell
  cases c with
  | list | deque | array | wrappedList =>
      refine (congrArg (fun xs => some (Shape.ofItems "[" "]" (xs.getD []))) items).trans ?_
      refine congrArg some (Eq.trans ?_ (mapValues_items ..).symm)
      exact congrArg (Shape.ofItems "[" "]") (Option.getD_map (List.map standIn) [] _)
  | map | wrappedMap | proxy =>
      refine (congrArg (fun es => some (Shape.ofEntries s' (es.getD []))) entries).trans ?_
      refine congrArg some (Eq.trans ?_ (mapValues_entries standIn keys).symm)
      exact congrArg (Shape.ofEntries s') (Option.getD_map (List.map _) [] _)
  | tuple => exact congrArg some (mapValues_items ..).symm
  | set => exact congrArg some (mapValues_set ..).symm
  | namedTuple => exact congrArg some (mapValues_fields ..).symm
  | record t xs =>
      refine congrArg some (Eq.trans ?_ (mapValues_fields ..).symm)
      rw [List.zip_map_right, List.filter_map, List.map_map, List.map_map]
      rfl
  | bag | function | custom => rfl

/-! ## The same expansion -/

theorem container?_agree {P : Value → Prop} (h : s.AgreeOn s' P) {v} (hv : P v)
    (plain : s.container? v = none) : s'.container? v = none := by
  cases v with
  | ref a =>
      rw [container?, Option.map_eq_none_iff, Option.bind_eq_none_iff] at plain ⊢
      intro c cell
      have shaped := plain c ((h.cells a hv).symm.trans cell)
      cases c with
      | bag | function | custom => rfl
      | _ => cases shaped
  | _ => rfl

theorem displayFrom_object {active since a o} (cell : s[a]? = some (.custom o))
    (outside : a ∉ since) : displayFrom s active since (.ref a) = o.shown.say := by
  have unguarded : ¬ (Cell.custom o).isGuarded := Bool.false_ne_true
  rw [displayFrom_cell cell, if_neg unguarded, if_neg outside, Cell.displayWith]

theorem safeDisplay_object {a o t} (cell : s[a]? = some (.custom o)) (shown : o.shown = .plain t) :
    s.safeDisplay (.ref a) = t := by
  rw [safeDisplay, display, displayFrom_object cell List.not_mem_nil, shown]
  rfl

/-- A container that is kept has the same labels in front of what is in the place of its entries. -/
theorem Mends.container (mended : s.Mends s' root broken standIn)
    (confined : s.Confined broken root) {path a shape}
    (reached : s.follow root path = some (.ref a)) (kept : ¬ broken (.ref a))
    (found : s.container? (.ref a) = some (a, shape)) :
    s'.container? (.ref a) = some (a, shape.mapValues standIn) := by
  have inside := within_follow reached
  obtain ⟨-, c, cell, shaped⟩ := container?_some found
  have keys : ∀ e ∈ (c.entries? s).getD [], s'.safeDisplay e.1 = s.safeDisplay e.1 := by
    intro e he
    obtain ⟨es, entries, he⟩ := mem_getD he
    apply safeDisplay_agree mended.agree
    exact ⟨inside.trans (within_entries cell entries e he).1,
      confined.keys path a c es reached cell entries e he⟩
  rw [container?, mended.cells a inside kept, cell, Option.map_some, Option.bind_some,
    mended.shape inside cell keys, shaped]
  rfl

/-- The occurrences of a value below the root, and what is in its place. -/
structure Occurs (s : Store) (root : Value) (standIn : Value → Value)
    (seen seen' : List Address) (v v' : Value) : Prop where
  around : seen' = seen
  replaced : v' = standIn v
  below : ∃ path, s.follow root path = some v

theorem Mends.corresponds (mended : s.Mends s' root broken standIn)
    (confined : s.Confined broken root) {seen seen' v v'}
    (h : s.Occurs root standIn seen seen' v v') :
    s.Corresponds s' (s.Occurs root standIn) seen seen' v v' := by
  obtain ⟨rfl, rfl, path, reached⟩ := h
  by_cases bad : broken v
  · obtain ⟨plain, f, a, o, failed, there, cell, shown⟩ := mended.fails v bad
    rw [there]
    apply Corresponds.line plain
    · rw [container?, cell]
      rfl
    · rw [safeDisplay, failed, safeDisplay_object cell shown]
  · rw [mended.keeps v bad]
    cases found : s.container? v with
    | none =>
        have sound : s.Sound root broken v :=
          ⟨within_follow reached, (confined.lines path v reached found).resolve_left bad⟩
        apply Corresponds.line found
        · exact container?_agree mended.agree sound found
        · exact (safeDisplay_agree mended.agree sound).symm
    | some c =>
        obtain ⟨a, shape⟩ := c
        obtain ⟨rfl, -⟩ := container?_some found
        have there := mended.container confined reached bad found
        refine .container found there rfl rfl rfl Iff.rfl fun outside => ?_
        rw [Shape.mapValues, List.forall₂_map_right_iff, List.forall₂_same]
        intro e he
        obtain ⟨i, entry⟩ := follow_entry found he
        refine ⟨rfl, rfl, rfl, path ++ [i], ?_⟩
        rw [follow_append, reached]
        exact entry

theorem expand_mended (confined : s.Confined broken root)
    (mended : s.Mends s' root broken standIn) (indent : Int) :
    s.expand indent root = s'.expand indent (standIn root) := by
  have step : ∀ seen seen' v v', s.Occurs root standIn seen seen' v v' →
      s.Corresponds s' (s.Occurs root standIn) seen seen' v v' :=
    fun _ _ _ _ h => mended.corresponds confined h
  exact expand_corresponds step ⟨rfl, rfl, [], rfl⟩ indent

end Store

/-- Values whose text fails do nothing but show a note of it in their places: when they are elements
    of containers only, a value is expanded, and rendered over several lines without a failure, to
    the text that it has with an object showing the note in the place of each of them. -/
theorem failures_stay_in_place {s s' : Store} {root : Value} {broken : Value → Prop}
    {standIn : Value → Value} (confined : s.Confined broken root)
    (mended : s.Mends s' root broken standIn) :
    (∀ indent, s.expand indent root = s'.expand indent (standIn root)) ∧
      ∀ w : World, w.store = s → ∃ text,
        (Directive.expanded.render root).run w = (.ok text, w) ∧
        (Directive.expanded.render (standIn root)).run { w with store := s' } =
          (.ok text, { w with store := s' }) := by
  have same := Store.expand_mended confined mended
  refine ⟨same, ?_⟩
  rintro w rfl
  refine ⟨w.store.expand Layout.standardIndent root, rfl, ?_⟩
  rw [same]
  rfl

/-- A list that holds itself, twice an object whose text fails, and a mapping of this object and of
    a view that cannot be shown because another such object is inside of it. -/
theorem failures_stay_in_place_cycle :
    let object (name : Text) (shown : Speech) : Cell :=
      .custom ⟨name, shown, none, none, [], [], none, none⟩
    let s : Store := [object "Foo" (.fail ⟨.other "Boom", []⟩),
      .list [.ref 0, .ref 1, .ref 2, .ref 0],
      .map .plain [(.text "k", .ref 0), (.text "v", .view .values 3)],
      .map .plain [(.text "y", .ref 4)], object "Bar" (.fail ⟨.badValue, []⟩), .list []]
    let s' : Store := [object "Foo" (.plain "<Foo object (repr failed: Boom)>"),
      .list [.ref 0, .ref 1, .ref 2, .ref 0],
      .map .plain [(.text "k", .ref 0), (.text "v", .ref 5)],
      .map .plain [(.text "y", .ref 4)], object "Bar" (.fail ⟨.badValue, []⟩),
      object "View" (.plain "<dict_values object (repr failed: ValueError)>")]
    let broken (v : Value) : Prop := v = .ref 0 ∨ v = .view .values 3
    let standIn (v : Value) : Value := if v = .view .values 3 then .ref 5 else v
    s.Confined broken (.ref 1) ∧ s.Mends s' (.ref 1) broken standIn ∧
      s.expand 2 (.ref 1) = s'.expand 2 (.ref 1) := by
  intro object s s' broken standIn
  let known : List Value := [.ref 0, .ref 1, .ref 2, .ref 3, .ref 4, .view .values 3,
    .text "k", .text "v", .text "y"]
  have closed : ∀ v ∈ known, ∀ w ∈ s.held v, w ∈ known := by decide
  have inside (v : Value) (reached : s.Within (.ref 1) v) : v ∈ known :=
    reached.closed (by decide) fun v w hv hw => closed v hv w hw
  have places (a : Address) (reached : s.Within (.ref 1) (.ref a)) :
      a = 0 ∨ a = 1 ∨ a = 2 ∨ a = 3 ∨ a = 4 := by
    simpa [known] using inside _ reached
  have clear (v : Value) (bare : s.held v = []) (other : v ≠ .ref 0 ∧ v ≠ .view .values 3) :
      s.Clear broken v := .of_bare bare (not_or.mpr other)
  have confined : s.Confined broken (.ref 1) := by
    constructor
    · intro path v reached plain
      have here := inside v (Store.within_follow reached)
      simp only [known, List.mem_cons, List.not_mem_nil, or_false] at here
      rcases here with rfl | rfl | rfl | rfl | rfl | rfl | rfl | rfl | rfl
      · exact .inl (.inl rfl)
      · cases plain
      · cases plain
      · cases plain
      · exact .inr (clear _ rfl (by decide))
      · exact .inl (.inr rfl)
      · exact .inr (clear _ rfl (by decide))
      · exact .inr (clear _ rfl (by decide))
      · exact .inr (clear _ rfl (by decide))
    · intro path a c es reached cell entries e he
      rcases places a (Store.within_follow reached) with rfl | rfl | rfl | rfl | rfl
      · cases cell
        cases entries
      · cases cell
        cases entries
      · cases cell
        cases entries
        exact clear _ (by revert e; decide) (by revert e; decide)
      · cases cell
        cases entries
        exact clear _ (by revert e; decide) (by revert e; decide)
      · cases cell
        cases entries
  have mended : s.Mends s' (.ref 1) broken standIn := by
    refine ⟨rfl, ?_, fun a => if_neg nofun, fun v kept => ?_, fun a reached kept => ?_⟩
    · rintro v (rfl | rfl)
      · refine ⟨rfl, ⟨.other "Boom", []⟩, 0, _, ?_, rfl, rfl, rfl⟩
        rw [Store.display, Store.displayFrom_object rfl List.not_mem_nil]
        rfl
      · refine ⟨rfl, ⟨.badValue, []⟩, 5, _, ?_, rfl, rfl, rfl⟩
        rw [Store.display, Store.displayFrom_view rfl, if_neg List.not_mem_nil]
        change ([(Value.text "y", Value.ref 4)].mapM fun e => displayFrom s [] [3] e.2) >>= _ = _
        rw [List.mapM_cons, Store.displayFrom_object rfl (by decide)]
        rfl
    · exact if_neg fun same => kept (.inr same)
    · rcases places a reached with rfl | rfl | rfl | rfl | rfl
      · exact absurd (.inl rfl) kept
      · rfl
      · rfl
      · rfl
      · rfl
  exact ⟨confined, mended, (failures_stay_in_place confined mended).1 2⟩

end Stencil
