import Stencil.Directive
import Stencil.Proofs.Value.Corresponding
import Stencil.Proofs.Value.Indented

/-! # Data in containers of other types

What is shown of data does not say which type of container holds it: all that is
list-like is shown as a list is, and all mappings as a plain one. So a container
may be put in the place of another one with the same items or entries, at any
number of places at once, and nothing that is shown changes as long as no
container lies around itself.
-/

namespace Stencil

namespace Store

/-- Values with the same data, which containers of other types may hold: a list-like container has
    the place of any other and a mapping that of any other. What is shown on one line, and the keys
    of mappings, are the same. -/
inductive Alike (s : Store) : Value → Value → Prop where
  | same (v : Value) : Alike s v v
  | items {a b c d xs ys} : s[a]? = some c → s[b]? = some d → c.listItems? s = some xs →
      d.listItems? s = some ys → List.Forall₂ (Alike s) xs ys → Alike s (.ref a) (.ref b)
  | entries {a b c d es fs} : s[a]? = some c → s[b]? = some d → c.entries? s = some es →
      d.entries? s = some fs → es.map (·.1) = fs.map (·.1) →
      List.Forall₂ (Alike s) (es.map (·.2)) (fs.map (·.2)) → Alike s (.ref a) (.ref b)
  | tuple {a b xs ys} : s[a]? = some (.tuple xs) → s[b]? = some (.tuple ys) →
      List.Forall₂ (Alike s) xs ys → Alike s (.ref a) (.ref b)
  | set {a b frozen xs ys} : s[a]? = some (.set frozen xs) → s[b]? = some (.set frozen ys) →
      List.Forall₂ (Alike s) xs ys → Alike s (.ref a) (.ref b)
  | namedTuple {a b name es fs} : s[a]? = some (.namedTuple name es) →
      s[b]? = some (.namedTuple name fs) → es.map (·.1) = fs.map (·.1) →
      List.Forall₂ (Alike s) (es.map (·.2)) (fs.map (·.2)) → Alike s (.ref a) (.ref b)
  | record {a b t xs ys} : s[a]? = some (.record t xs) → s[b]? = some (.record t ys) →
      List.Forall₂ (Alike s) xs ys → Alike s (.ref a) (.ref b)

/-- A value below which every path of entries comes to an end. -/
inductive Grounded (s : Store) : Value → Prop where
  | mk {v} : (∀ a shape, s.container? v = some (a, shape) → ∀ e ∈ shape.entries, Grounded s e.2) →
      Grounded s v

variable {s : Store} {v w : Value}

/-! ## Paths that come to an end -/

theorem Grounded.of_line (plain : s.container? v = none) : s.Grounded v :=
  .mk fun a shape found => by cases plain.symm.trans found

theorem Grounded.of_container {a shape} (found : s.container? v = some (a, shape))
    (parts : ∀ e ∈ shape.entries, s.Grounded e.2) : s.Grounded v := by
  refine .mk fun b shape' found' => ?_
  cases found.symm.trans found'
  exact parts

theorem Grounded.along {path} (h : s.Grounded v) (reached : s.follow v path = some w) :
    s.Grounded w := by
  refine follow_closed (fun u a shape grounded found e he => ?_) h reached
  cases grounded with
  | mk parts => exact parts a shape found e he

theorem Grounded.no_return {path} (h : s.Grounded v) (proper : path ≠ []) :
    s.follow v path ≠ some v := by
  induction h generalizing path with
  | @mk v _ ih =>
      intro back
      obtain ⟨i, path, rfl⟩ := List.exists_cons_of_ne_nil proper
      obtain ⟨a, shape, e, found, he, behind⟩ := follow_entered back
      -- the way from the container back to it is one from the entry back to itself
      have around : s.follow e.2 (path ++ [i]) = some e.2 := by
        rw [follow_append, behind, Option.bind_some, follow_cons found, he]
        rfl
      exact ih a shape found e (List.mem_of_getElem? he) (by simp) around

theorem Grounded.acyclic (h : s.Grounded v) : s.Acyclic v := by
  intro path a here around
  obtain ⟨q, ⟨r, rfl⟩, proper, there⟩ := around
  rw [follow_append, there, Option.bind_some] at here
  apply (h.along there).no_return _ here
  rintro rfl
  exact proper (List.append_nil q).symm

theorem Acyclic.grounded (acyclic : s.Acyclic v) {seen} (apart : s.Apart seen v) :
    s.Grounded v := by
  fun_induction outlineFrom s seen v with
  | case1 seen v plain => exact .of_line plain
  | case2 seen v a shape found inside =>
      obtain ⟨rfl, -⟩ := container?_some found
      exact absurd inside (apart [] a rfl)
  | case3 seen v a shape found outside none =>
      refine .of_container found fun e he => ?_
      rw [List.isEmpty_iff.mp none] at he
      cases he
  | case4 seen v a shape found outside some ih =>
      refine .of_container found fun e he => ?_
      obtain ⟨i, reached⟩ := follow_entry found he
      exact ih e (acyclic.below reached) (apart.enter acyclic found he)

/-! ## What is alike -/

theorem shape?_of_items {c : Cell} {xs} (h : c.listItems? s = some xs) :
    c.shape? s = some (.ofItems "[" "]" xs) := by
  cases c with
  | list | deque | array =>
      cases h
      rfl
  | wrappedList a => rw [Cell.shape?, h, Option.getD_some]
  | tuple | set | map | wrappedMap | proxy | bag | namedTuple | record | function | custom => cases h

theorem shape?_of_entries {c : Cell} {es} (h : c.entries? s = some es) :
    c.shape? s = some (.ofEntries s es) := by
  cases c with
  | map | wrappedMap | proxy => rw [Cell.shape?, h, Option.getD_some]
  | list | deque | array | wrappedList | tuple | set | bag | namedTuple | record | function
  | custom => cases h

theorem container?_of_shape {a c shape} (cell : s[a]? = some c) (shaped : c.shape? s = some shape) :
    s.container? (.ref a) = some (a, shape) := by
  rw [container?, cell, Option.bind_some, shaped]
  rfl

abbrev EntriesAlike (s : Store) : List (Text × Value) → List (Text × Value) → Prop :=
  List.Forall₂ fun e f => e.1 = f.1 ∧ s.Alike e.2 f.2

theorem EntriesAlike.items {xs ys} (h : List.Forall₂ s.Alike xs ys) :
    s.EntriesAlike (xs.map fun v => ([], v)) (ys.map fun v => ([], v)) := by
  rw [EntriesAlike, List.forall₂_map_left_iff, List.forall₂_map_right_iff]
  exact h.imp fun v w hvw => ⟨rfl, hvw⟩

/-- Pairs of keys or names with values, labelled by a text made from the former. -/
theorem EntriesAlike.labelled {κ : Type} (label : κ → Text) {es fs : List (κ × Value)}
    (keys : es.map (·.1) = fs.map (·.1))
    (h : List.Forall₂ s.Alike (es.map (·.2)) (fs.map (·.2))) :
    s.EntriesAlike (es.map fun e => (label e.1, e.2)) (fs.map fun e => (label e.1, e.2)) := by
  induction es generalizing fs with
  | nil =>
      rw [List.map_nil, eq_comm, List.map_eq_nil_iff] at keys
      rw [keys]
      exact .nil
  | cons e es ih =>
      cases fs with
      | nil => cases keys
      | cons f fs =>
          obtain ⟨key, keys⟩ := List.cons.inj keys
          cases h with
          | cons first rest => exact .cons ⟨congrArg label key, first⟩ (ih keys rest)

theorem EntriesAlike.fields (fields : List (Text × Bool)) {xs ys}
    (h : List.Forall₂ s.Alike xs ys) :
    s.EntriesAlike (((fields.zip xs).filter (·.1.2)).map fun f => (f.1.1 ++ "=", f.2))
      (((fields.zip ys).filter (·.1.2)).map fun f => (f.1.1 ++ "=", f.2)) := by
  induction h generalizing fields with
  | nil =>
      rw [List.zip_nil_right]
      exact .nil
  | cons first _ ih =>
      cases fields with
      | nil => exact .nil
      | cons field fields =>
          obtain ⟨name, shown⟩ := field
          cases shown with
          | true => exact .cons ⟨rfl, first⟩ (ih fields)
          | false => exact ih fields

theorem EntriesAlike.refl (es : List (Text × Value)) : s.EntriesAlike es es :=
  List.forall₂_same.mpr fun e _ => ⟨rfl, .same e.2⟩

/-- What alike values are shown as: one value that is no container, or containers that look the same
    and have alike entries. -/
theorem Alike.shape (h : s.Alike v w) : s.container? v = none ∧ v = w ∨ ∃ a b shape shape',
    s.container? v = some (a, shape) ∧ s.container? w = some (b, shape') ∧
      shape.opening = shape'.opening ∧ shape.closing = shape'.closing ∧
      shape.empty = shape'.empty ∧ s.EntriesAlike shape.entries shape'.entries := by
  cases h with
  | same =>
      cases found : s.container? v with
      | none => exact .inl ⟨rfl, rfl⟩
      | some c => exact .inr ⟨c.1, c.1, c.2, c.2, rfl, rfl, rfl, rfl, rfl, .refl _⟩
  | items cell cell' items items' alike =>
      exact .inr ⟨_, _, _, _, container?_of_shape cell (shape?_of_items items),
        container?_of_shape cell' (shape?_of_items items'), rfl, rfl, rfl, .items alike⟩
  | entries cell cell' entries entries' keys alike =>
      exact .inr ⟨_, _, _, _, container?_of_shape cell (shape?_of_entries entries),
        container?_of_shape cell' (shape?_of_entries entries'), rfl, rfl, rfl,
        .labelled (fun k => s.safeDisplay k ++ ": ") keys alike⟩
  | tuple cell cell' alike | set cell cell' alike =>
      exact .inr ⟨_, _, _, _, container?_of_shape cell rfl, container?_of_shape cell' rfl,
        rfl, rfl, rfl, .items alike⟩
  | namedTuple cell cell' names alike =>
      exact .inr ⟨_, _, _, _, container?_of_shape cell rfl, container?_of_shape cell' rfl,
        rfl, rfl, rfl, .labelled (fun k => k ++ "=") names alike⟩
  | @record a b t xs ys cell cell' alike =>
      refine .inr ⟨_, _, _, _, container?_of_shape cell rfl, container?_of_shape cell' rfl,
        rfl, rfl, rfl, ?_⟩
      simpa [Shape.ofFields] using EntriesAlike.fields t.fields alike

/-- What is alike to a value without endless paths has none. -/
theorem Grounded.alike (h : s.Grounded v) (alike : s.Alike v w) : s.Grounded w := by
  induction h generalizing w with
  | @mk v parts ih =>
      rcases alike.shape with ⟨-, rfl⟩ | ⟨a, b, shape, shape', found, found', -, -, -, entries⟩
      · exact .mk parts
      · refine .of_container found' fun f hf => ?_
        obtain ⟨e, he, related⟩ := forall₂_partner entries.flip hf
        exact ih a shape found e he related.2

theorem Acyclic.alike (h : s.Acyclic v) (alike : s.Alike v w) : s.Acyclic w := by
  have outside : s.Apart [] v := fun _ _ _ => List.not_mem_nil
  exact ((h.grounded outside).alike alike).acyclic

/-- Alike values without cycles, with none of the containers around each in it. -/
structure AlikeApart (s : Store) (seen seen' : List Address) (v w : Value) : Prop where
  alike : s.Alike v w
  acyclic : s.Acyclic v
  apart : s.Apart seen v
  apart' : s.Apart seen' w

theorem forall₂_with_mem {α β : Type} {R : α → β → Prop} {xs : List α} {ys : List β}
    (h : List.Forall₂ R xs ys) : List.Forall₂ (fun x y => x ∈ xs ∧ y ∈ ys ∧ R x y) xs ys := by
  obtain ⟨length, each⟩ := List.forall₂_iff_zip.mp h
  refine List.forall₂_iff_zip.mpr ⟨length, fun {x y} hxy => ?_⟩
  exact ⟨(List.of_mem_zip hxy).1, (List.of_mem_zip hxy).2, each hxy⟩

theorem AlikeApart.corresponds {seen seen'} (h : s.AlikeApart seen seen' v w) :
    s.Corresponds s s.AlikeApart seen seen' v w := by
  have acyclic' := h.acyclic.alike h.alike
  rcases h.alike.shape with
    ⟨plain, rfl⟩ | ⟨a, b, shape, shape', found, found', opening, closing, empty, entries⟩
  · exact .line plain plain rfl
  · have outside : a ∉ seen := by
      obtain ⟨rfl, -⟩ := container?_some found
      exact h.apart [] a rfl
    have outside' : b ∉ seen' := by
      obtain ⟨rfl, -⟩ := container?_some found'
      exact h.apart' [] b rfl
    refine .container found found' opening closing empty (iff_of_false outside outside') fun _ => ?_
    refine (forall₂_with_mem entries).imp fun e f ⟨he, hf, label, alike⟩ => ⟨label, ?_⟩
    obtain ⟨i, reached⟩ := follow_entry found he
    exact ⟨alike, h.acyclic.below reached, h.apart.enter h.acyclic found he,
      h.apart'.enter acyclic' found' hf⟩

theorem expand_alike (alike : s.Alike v w) (acyclic : s.Acyclic v) (indent : Int) :
    s.expand indent v = s.expand indent w := by
  have outside (u : Value) : s.Apart [] u := fun _ _ _ => List.not_mem_nil
  have step : ∀ seen seen' u u', s.AlikeApart seen seen' u u' →
      s.Corresponds s s.AlikeApart seen seen' u u' := fun _ _ _ _ h => h.corresponds
  exact expand_corresponds step ⟨alike, acyclic, outside v, outside w⟩ indent

/-! ## The list of the items -/

/-- The text of a list starts with its bracket, or with the mark of a failure. -/
theorem safeDisplay_list {a xs} (cell : s[a]? = some (.list xs)) :
    ∃ c t, s.safeDisplay (.ref a) = c :: t ∧ c ≠ '\x7b' := by
  rw [safeDisplay, display, displayFrom_guarded cell rfl List.not_mem_nil, Cell.displayWith]
  cases xs.mapM fun w => displayFrom s [a] [] w with
  | ok parts => exact ⟨'[', _, rfl, by decide⟩
  | error f => exact ⟨'<', _, rfl, by decide⟩

theorem listLike?_list {a xs} (cell : s[a]? = some (.list xs)) : s.listLike? (.ref a) = none := by
  rw [listLike?, cell]

theorem allocated (s : Store) (c : Cell) : (s.allocate c).2[(s.allocate c).1]? = some c := by
  simp [allocate]

theorem debugText_list {items} (like : s.listLike? v = some items) :
    (s.allocate (.list items)).2.debugText (.ref (s.allocate (.list items)).1) = s.debugText v := by
  rw [debugText, listLike?_list (allocated s (.list items)), debugText, like]

/-- What is written as a list is laid out by its text alone. -/
theorem layOut_list {items} (like : s.listLike? v = some items) :
    (s.allocate (.list items)).2.layOut (.ref (s.allocate (.list items)).1) = s.layOut v := by
  have same := debugText_list like
  obtain ⟨c, t, shown, other⟩ := safeDisplay_list (allocated s (.list items))
  have text : s.debugText v = c :: t := by rw [debugText, like, ← shown]
  rw [layOut, layOut, same, text]
  split
  · rfl
  · rename_i brace
    cases brace
    exact absurd rfl other
  · rfl

end Store

theorem Directive.render_array (v : Value) (w : World) :
    (array.render v).run w = (.ok (w.store.layOut v).1,
      { w with warnings := w.warnings ++ (w.store.layOut v).2.toList }) := rfl

theorem Directive.render_compact (v : Value) (w : World) :
    (compact.render v).run w = (.ok (w.store.compactText v), w) := rfl

/-- Which types of containers hold some data makes no difference to what is shown of it: values
    without cycles that are alike have the same expansion, with every padding, and a list-like
    container is laid out and written on one line as the list of its items is, a new cell, with the
    same warnings. -/
theorem shown_alike (w : World) :
    (∀ v v', w.store.Acyclic v → w.store.Alike v v' →
      ∀ indent, w.store.expand indent v = w.store.expand indent v') ∧
    ∀ v items a t, w.store.listLike? v = some items → w.store.allocate (.list items) = (a, t) →
      ∀ d, d = Directive.array ∨ d = Directive.compact →
        ∃ text warnings, (d.render v).run w = (.ok text, { w with warnings := warnings }) ∧
          (d.render (.ref a)).run { w with store := t } =
            (.ok text, { w with store := t, warnings := warnings }) := by
  refine ⟨fun v v' acyclic alike indent => Store.expand_alike alike acyclic indent, ?_⟩
  intro v items a t like new d hd
  obtain rfl : (w.store.allocate (.list items)).1 = a := congrArg Prod.fst new
  obtain rfl : (w.store.allocate (.list items)).2 = t := congrArg Prod.snd new
  rcases hd with rfl | rfl
  · refine ⟨_, _, Directive.render_array v w, ?_⟩
    rw [Directive.render_array, Store.layOut_list like]
  · refine ⟨_, _, Directive.render_compact v w, ?_⟩
    rw [Directive.render_compact, Store.compactText, Store.debugText_list like]
    rfl

/-- A deque of an ordered mapping around an array and of this array, and a list of a plain mapping
    around a list and of the array: the items are put in a list at one of their two places. -/
theorem shown_alike_mixed :
    let s : Store := [.array 'i' [.int 7], .list [.int 7], .map .ordered [(.text "k", .ref 0)],
      .map .plain [(.text "k", .ref 1)], .deque [.ref 2, .ref 0] none, .list [.ref 3, .ref 0]]
    let t : Store := s ++ [.list [.ref 2, .ref 0]]
    s.Acyclic (.ref 4) ∧ s.Alike (.ref 4) (.ref 5) ∧ s.expand 2 (.ref 4) = s.expand 2 (.ref 5) ∧
      ∃ text warnings,
        (Directive.array.render (.ref 4)).run (.begin s []) = (.ok text, ⟨s, warnings, [], []⟩) ∧
        (Directive.array.render (.ref 6)).run (.begin t []) = (.ok text, ⟨t, warnings, [], []⟩) := by
  intro s t
  have array : s.Grounded (.ref 0) := by
    apply Store.Grounded.of_container rfl
    exact List.forall_mem_singleton.mpr (.of_line rfl)
  have mapping : s.Grounded (.ref 2) := by
    apply Store.Grounded.of_container rfl
    exact List.forall_mem_singleton.mpr array
  have acyclic : s.Acyclic (.ref 4) := by
    apply Store.Grounded.acyclic
    apply Store.Grounded.of_container rfl
    exact List.forall_mem_cons.mpr ⟨mapping, List.forall_mem_singleton.mpr array⟩
  have items : s.Alike (.ref 0) (.ref 1) := .items rfl rfl rfl rfl (.cons (.same _) .nil)
  have entries : s.Alike (.ref 2) (.ref 3) := .entries rfl rfl rfl rfl rfl (.cons items .nil)
  have alike : s.Alike (.ref 4) (.ref 5) :=
    .items rfl rfl rfl rfl (.cons entries (.cons (.same _) .nil))
  obtain ⟨expanded, laid⟩ := shown_alike (.begin s [])
  exact ⟨acyclic, alike, expanded _ _ acyclic alike 2,
    laid (.ref 4) [.ref 2, .ref 0] 6 t rfl rfl .array (.inl rfl)⟩

end Stencil
