import Stencil.Proofs.Value.Outline
import Stencil.Proofs.Value.Shown

/-! # Expansions of parts

What an element shows in the expansion of the containers around it is its own
expansion, moved to the right: all that stands around it comes in by the level,
and a level is spaces behind line feeds. The containers around an element say
nothing more where no container lies around itself, so that a container which
occurs several times looks the same at each of its occurrences.
-/

namespace Stencil

/-! ## Text moved to the right -/

/-- Text with spaces put in behind each of its line feeds. -/
def Text.indented (n : Nat) (t : Text) : Text :=
  t.flatMap fun c => if c = '\n' then c :: List.replicate n ' ' else [c]

namespace Text

theorem indented_append (n : Nat) (t u : Text) :
    indented n (t ++ u) = indented n t ++ indented n u := List.flatMap_append

theorem indented_break (n : Nat) (t : Text) :
    indented n ('\n' :: t) = '\n' :: (List.replicate n ' ' ++ indented n t) := rfl

theorem indented_flatMap {α : Type} (n : Nat) (xs : List α) (f : α → Text) :
    indented n (xs.flatMap f) = xs.flatMap fun x => indented n (f x) := List.flatMap_assoc

theorem indented_unbroken {t : Text} (h : '\n' ∉ t) (n : Nat) : indented n t = t := by
  induction t with
  | nil => rfl
  | cons c t ih =>
      rw [List.mem_cons, not_or] at h
      have rest := ih h.2
      rw [indented] at rest ⊢
      rw [List.flatMap_cons, if_neg (Ne.symm h.1), rest]
      rfl

theorem indented_indented (m n : Nat) (t : Text) :
    indented m (indented n t) = indented (m + n) t := by
  have spaces : '\n' ∉ List.replicate n ' ' := by
    intro mem
    cases (List.mem_replicate.mp mem).2
  rw [indented.eq_def n, indented_flatMap]
  refine List.flatMap_congr fun c _ => ?_
  split
  · rename_i feed
    rw [feed, indented_break, indented_unbroken spaces, List.replicate_append_replicate]
  · rename_i other
    exact indented_unbroken (by simpa using Ne.symm other) m

end Text

theorem padding_natural (n level : Nat) : padding n level = List.replicate (n * level) ' ' := by
  rw [padding, ← Int.natCast_mul, Int.toNat_natCast]

theorem padding_unbroken (indent : Int) (level : Nat) : '\n' ∉ padding indent level := by
  intro mem
  cases (List.mem_replicate.mp mem).2

/-! ## Acyclic values -/

namespace Store

/-- No container below a value lies around itself. -/
def Acyclic (s : Store) (v : Value) : Prop :=
  ∀ path a, s.follow v path = some (.ref a) → ¬ s.Encloses v path a

/-- A value with no line feed in what it shows of its own: its text when it is shown on one line,
    else its type name and its labels, which are the texts of keys or the names of fields. -/
structure Flat (s : Store) (v : Value) : Prop where
  line : s.container? v = none → '\n' ∉ s.safeDisplay v
  name : ∀ a shape, s.container? v = some (a, shape) → '\n' ∉ v.typeName s
  label : ∀ a shape, s.container? v = some (a, shape) → ∀ e ∈ shape.entries, '\n' ∉ e.1

/-- Neither a value nor what is below it has a line feed of its own. -/
def Unbroken (s : Store) (v : Value) : Prop := ∀ path w, s.follow v path = some w → s.Flat w

/-- None of the cells is a value or below it. -/
def Apart (s : Store) (seen : List Address) (v : Value) : Prop :=
  ∀ path a, s.follow v path = some (.ref a) → a ∉ seen

variable {s : Store}

theorem follow_append (v : Value) (path q : List Nat) :
    s.follow v (path ++ q) = (s.follow v path).bind fun w => s.follow w q := by
  induction path generalizing v with
  | nil => rfl
  | cons i path ih =>
      cases found : s.container? v with
      | none => simp [follow, found]
      | some c =>
          obtain ⟨a, shape⟩ := c
          rw [List.cons_append, follow_cons found, follow_cons found, Option.bind_assoc]
          congr 1
          funext e
          exact ih e.2

theorem follow_entry {v a shape} (found : s.container? v = some (a, shape))
    {e : Text × Value} (he : e ∈ shape.entries) : ∃ i, s.follow v [i] = some e.2 := by
  obtain ⟨i, hi⟩ := List.getElem?_of_mem he
  refine ⟨i, ?_⟩
  rw [follow_cons found, hi]
  rfl

theorem Encloses.append {v path a} (h : s.Encloses v path a) (q : List Nat) :
    s.Encloses v (path ++ q) a := by
  obtain ⟨r, before, proper, here⟩ := h
  refine ⟨r, before.trans (List.prefix_append path q), ?_, here⟩
  rintro rfl
  apply proper
  have shorter := before.length_le
  rw [List.length_append] at shorter
  obtain rfl : q = [] := List.length_eq_zero_iff.mp (by omega)
  exact List.append_nil path

theorem Encloses.below {v path w q a} (reached : s.follow v path = some w)
    (h : s.Encloses w q a) : s.Encloses v (path ++ q) a := by
  obtain ⟨r, before, proper, here⟩ := h
  refine ⟨path ++ r, (List.prefix_append_right_inj path).mpr before, by simpa using proper, ?_⟩
  rw [follow_append, reached]
  exact here

theorem Acyclic.below {v path w} (h : s.Acyclic v) (reached : s.follow v path = some w) :
    s.Acyclic w := by
  intro q a here around
  apply h (path ++ q) a
  · rw [follow_append, reached]
    exact here
  · exact around.below reached

theorem Unbroken.below {v path w} (h : s.Unbroken v) (reached : s.follow v path = some w) :
    s.Unbroken w := by
  intro q u here
  apply h (path ++ q) u
  rw [follow_append, reached]
  exact here

theorem Apart.below {v path w seen} (h : s.Apart seen v) (reached : s.follow v path = some w) :
    s.Apart seen w := by
  intro q a here
  apply h (path ++ q) a
  rw [follow_append, reached]
  exact here

theorem Acyclic.apart {v path w seen} (h : s.Acyclic v) (reached : s.follow v path = some w)
    (around : ∀ b ∈ seen, s.Encloses v path b) : s.Apart seen w := by
  intro q a here inside
  apply h (path ++ q) a
  · rw [follow_append, reached]
    exact here
  · exact (around a inside).append q

theorem Apart.enter {v a shape seen} {e : Text × Value} (acyclic : s.Acyclic v)
    (h : s.Apart seen v) (found : s.container? v = some (a, shape)) (he : e ∈ shape.entries) :
    s.Apart (a :: seen) e.2 := by
  obtain ⟨i, reached⟩ := follow_entry found he
  obtain ⟨rfl, -⟩ := container?_some found
  have around : s.Encloses (.ref a) [i] a := ⟨[], List.nil_prefix, by simp, rfl⟩
  have itself : s.Apart [a] e.2 := acyclic.apart reached (by simpa using around)
  intro q b here inside
  rcases List.mem_cons.mp inside with rfl | inside
  · exact itself q b here (List.mem_singleton_self b)
  · exact h.below reached q b here inside

/-! ## Values without cycles and line feeds -/

/-- Going down leads to older cells where containers hold nothing but older ones. -/
theorem follow_older {a b path}
    (older : ∀ a v shape, s.container? v = some (a, shape) →
      ∀ e ∈ shape.entries, ∀ b, e.2 = .ref b → b < a)
    (proper : path ≠ []) (reached : s.follow (.ref a) path = some (.ref b)) : b < a := by
  induction path generalizing a with
  | nil => exact absurd rfl proper
  | cons i path ih =>
      obtain ⟨a', shape, e, found, he, behind⟩ := follow_entered reached
      obtain ⟨same, -⟩ := container?_some found
      cases same
      have entry := older a _ shape found e (List.mem_of_getElem? he)
      cases path with
      | nil => exact entry b (Option.some.inj behind)
      | cons j path =>
          obtain ⟨d, shape', e', found', -, -⟩ := follow_entered behind
          obtain ⟨same, -⟩ := container?_some found'
          rw [same] at behind
          exact Nat.lt_trans (ih (List.cons_ne_nil j path) behind) (entry d same)

theorem acyclic_of_older (v : Value)
    (older : ∀ a v shape, s.container? v = some (a, shape) →
      ∀ e ∈ shape.entries, ∀ b, e.2 = .ref b → b < a) : s.Acyclic v := by
  intro path a here around
  obtain ⟨q, ⟨r, rfl⟩, proper, there⟩ := around
  rw [follow_append, there, Option.bind_some] at here
  have nonempty : r ≠ [] := by
    rintro rfl
    exact proper (List.append_nil q).symm
  exact Nat.lt_irrefl a (follow_older older nonempty here)

theorem Unbroken.of_entries {v} (here : s.Flat v)
    (parts : ∀ a shape, s.container? v = some (a, shape) → ∀ e ∈ shape.entries,
      s.Unbroken e.2) : s.Unbroken v := by
  intro path w reached
  cases path with
  | nil =>
      cases reached
      exact here
  | cons i path =>
      obtain ⟨a, shape, e, found, he, behind⟩ := follow_entered reached
      exact parts a shape found e (List.mem_of_getElem? he) path w behind

theorem Unbroken.of_line {v} (plain : s.container? v = none) (h : '\n' ∉ s.safeDisplay v) :
    s.Unbroken v := by
  have other : ∀ a shape, s.container? v ≠ some (a, shape) := by
    intro a shape found
    cases found.symm.trans plain
  exact .of_entries ⟨fun _ => h, fun a shape found => absurd found (other a shape),
    fun a shape found => absurd found (other a shape)⟩
    fun a shape found => absurd found (other a shape)

theorem Unbroken.of_container {v a shape} (found : s.container? v = some (a, shape))
    (name : '\n' ∉ v.typeName s)
    (parts : ∀ e ∈ shape.entries, '\n' ∉ e.1 ∧ s.Unbroken e.2) : s.Unbroken v := by
  have only : ∀ b shape', s.container? v = some (b, shape') → shape' = shape := by
    intro b shape' found'
    cases found.symm.trans found'
    rfl
  apply Unbroken.of_entries
  · constructor
    · intro plain
      cases found.symm.trans plain
    · intro b shape' _
      exact name
    · intro b shape' found' e he
      rw [only b shape' found'] at he
      exact (parts e he).1
  · intro b shape' found' e he
    rw [only b shape' found'] at he
    exact (parts e he).2

/-! ## Expansions at a level -/

theorem typeName_cell {a : Address} {c : Cell} (cell : s[a]? = some c) :
    (Value.ref a).typeName s = c.typeNames.1 := by
  rw [Value.typeName]
  unfold Value.typeNames
  simp only [cell]

theorem shape_unbroken {c : Cell} {shape : Shape} (shaped : c.shape? s = some shape)
    (name : '\n' ∉ c.typeNames.1) :
    '\n' ∉ shape.opening ∧ '\n' ∉ shape.closing ∧ '\n' ∉ shape.empty := by
  cases c with
  | record t values =>
      obtain rfl := Option.some.inj shaped
      have plain : '\n' ∉ t.name := name
      simp [Shape.ofFields, plain]
  | namedTuple t fields =>
      obtain rfl := Option.some.inj shaped
      have plain : '\n' ∉ t := name
      simp [Shape.ofFields, plain]
  | set frozen xs =>
      obtain rfl := Option.some.inj shaped
      cases frozen
      · simp [Shape.ofSet]
      · simp [Shape.ofSet]
  | list | deque | array | wrappedList | tuple =>
      obtain rfl := Option.some.inj shaped
      simp [Shape.ofItems]
  | map | wrappedMap | proxy =>
      obtain rfl := Option.some.inj shaped
      simp [Shape.ofEntries]
  | bag | function | custom => cases shaped

/-- The line of an entry in the expansion of a container, behind its line feed. -/
def entryLine (s : Store) (indent : Int) (level : Nat) (seen : List Address)
    (e : Text × Value) : Text :=
  '\n' :: (padding indent (level + 1) ++ e.1 ++ expandFrom s indent (level + 1) seen e.2 ++ [','])

theorem expandFrom_container {indent level seen v a shape}
    (found : s.container? v = some (a, shape)) (fresh : a ∉ seen) :
    expandFrom s indent level seen v =
      if shape.entries.isEmpty then shape.empty
      else shape.opening ++ (shape.entries.flatMap (s.entryLine indent level (a :: seen)) ++
        '\n' :: (padding indent level ++ shape.closing)) := by
  obtain ⟨rfl, c, cell, shaped⟩ := container?_some found
  exact expandFrom_shape cell shaped fresh

theorem entryLine_indented {n level : Nat} {seen seen' : List Address} {e : Text × Value}
    (label : '\n' ∉ e.1)
    (deep : expandFrom s n (level + 1) seen e.2 =
      Text.indented (n * (level + 1)) (expandFrom s n 0 [] e.2))
    (flat : expandFrom s n 1 seen' e.2 = Text.indented (n * 1) (expandFrom s n 0 [] e.2)) :
    s.entryLine n level seen e = Text.indented (n * level) (s.entryLine n 0 seen' e) := by
  have comma : '\n' ∉ [','] := by decide
  have width : List.replicate (n * level) ' ' ++ padding n 1 = padding n (level + 1) := by
    rw [padding_natural, padding_natural, List.replicate_append_replicate, ← Nat.mul_add]
  rw [entryLine, entryLine, Text.indented_break, Text.indented_append, Text.indented_append,
    Text.indented_append, Text.indented_unbroken (padding_unbroken _ _),
    Text.indented_unbroken label, Text.indented_unbroken comma, deep, flat,
    Text.indented_indented, ← Nat.mul_add, ← width]
  simp only [List.append_assoc]

/-- The level and the containers around a value do nothing to its expansion but move it. The
    recursion is that of the outline, whose own containers are not those of the expansions. -/
theorem expandFrom_indented (n : Nat) {above v} (acyclic : s.Acyclic v) (unbroken : s.Unbroken v)
    (outside : s.Apart above v) (level : Nat) {seen} (apart : s.Apart seen v) :
    expandFrom s n level seen v = Text.indented (n * level) (expandFrom s n 0 [] v) := by
  fun_induction outlineFrom s above v generalizing level seen with
  | case1 above v plain =>
      rw [expandFrom_eq, plain, expandFrom_eq, plain]
      exact (Text.indented_unbroken ((unbroken [] v rfl).line plain) _).symm
  | case2 above v a shape found inside =>
      obtain ⟨rfl, -⟩ := container?_some found
      exact absurd inside (outside [] a rfl)
  | case3 above v a shape found fresh empty =>
      obtain ⟨rfl, c, cell, shaped⟩ := container?_some found
      have name := (unbroken [] _ rfl).name a shape found
      rw [typeName_cell cell] at name
      rw [expandFrom_container found (apart [] a rfl), if_pos empty,
        expandFrom_container found List.not_mem_nil, if_pos empty]
      exact (Text.indented_unbroken (shape_unbroken shaped name).2.2 _).symm
  | case4 above v a shape found fresh nonempty ih =>
      obtain ⟨rfl, c, cell, shaped⟩ := container?_some found
      have name := (unbroken [] _ rfl).name a shape found
      rw [typeName_cell cell] at name
      obtain ⟨opening, closing, -⟩ := shape_unbroken shaped name
      have free : s.Apart [] (.ref a) := fun _ _ _ => List.not_mem_nil
      have entry : ∀ e ∈ shape.entries, s.entryLine n level (a :: seen) e =
          Text.indented (n * level) (s.entryLine n 0 [a] e) := by
        intro e he
        obtain ⟨i, reached⟩ := follow_entry found he
        have moved : ∀ level {seen}, s.Apart seen e.2 → expandFrom s n level seen e.2 =
            Text.indented (n * level) (expandFrom s n 0 [] e.2) := fun level {seen} =>
          ih e (acyclic.below reached) (unbroken.below reached)
            (outside.enter acyclic found he) level
        apply entryLine_indented
        · exact (unbroken [] _ rfl).label a shape found e he
        · exact moved (level + 1) (apart.enter acyclic found he)
        · exact moved 1 (free.enter acyclic found he)
      rw [expandFrom_container found (apart [] a rfl), if_neg nonempty,
        expandFrom_container found List.not_mem_nil, if_neg nonempty, Text.indented_append,
        Text.indented_append, Text.indented_flatMap, Text.indented_break, Text.indented_append,
        Text.indented_unbroken opening, Text.indented_unbroken (padding_unbroken _ _),
        Text.indented_unbroken closing, List.flatMap_congr entry, padding_natural,
        padding_natural]
      rfl

/-- The expansion of a container with entries is put together from those of its elements, and at
    whatever occurrence, level and containers around it an element has the same text but for
    spaces behind its line feeds. -/
theorem expand_compositional (s : Store) (v : Value) (n : Nat) (acyclic : s.Acyclic v)
    (unbroken : s.Unbroken v) :
    (∀ a shape, s.container? v = some (a, shape) → shape.entries ≠ [] →
      s.expand n v = shape.opening ++ (shape.entries.flatMap fun e =>
          '\n' :: (List.replicate n ' ' ++ e.1 ++ Text.indented n (s.expand n e.2) ++ ",")) ++
        '\n' :: shape.closing) ∧
    ∀ path w level seen, s.follow v path = some w → (∀ b ∈ seen, s.Encloses v path b) →
      expandFrom s n level seen w = Text.indented (n * level) (s.expand n w) := by
  have free : ∀ w, s.Apart [] w := fun _ _ _ _ => List.not_mem_nil
  constructor
  · intro a shape found nonempty
    have entry : ∀ e ∈ shape.entries, s.entryLine n 0 [a] e =
        '\n' :: (List.replicate n ' ' ++ e.1 ++ Text.indented n (s.expand n e.2) ++ ",") := by
      intro e he
      obtain ⟨i, reached⟩ := follow_entry found he
      have moved := expandFrom_indented n (acyclic.below reached) (unbroken.below reached)
        (free e.2) 1 ((free v).enter acyclic found he)
      rw [Nat.mul_one] at moved
      rw [entryLine, moved, padding_natural, Nat.mul_one]
      rfl
    have shown : ¬ shape.entries.isEmpty := fun empty => nonempty (List.isEmpty_iff.mp empty)
    rw [expand, expandFrom_container found List.not_mem_nil, if_neg shown,
      List.flatMap_congr entry, padding_natural, Nat.mul_zero]
    simp only [List.append_assoc]
    rfl
  · intro path w level seen reached around
    exact expandFrom_indented n (acyclic.below reached) (unbroken.below reached) (free w) level
      (acyclic.apart reached around)

/-- A list that stands in a mapping and, a level below, in a record of it. -/
theorem expand_compositional_shared :
    let point : RecordType := ⟨"Point", "shapes", [("xs", true)], []⟩
    let s : Store := [.list [.int 1], .record point [.ref 0],
      .map .plain [(.text "k", .ref 0), (.text "p", .ref 1)]]
    s.Acyclic (.ref 2) ∧ s.Unbroken (.ref 2) ∧
      expandFrom s 2 1 [2] (.ref 0) = Text.indented 2 (s.expand 2 (.ref 0)) ∧
      expandFrom s 2 2 [1, 2] (.ref 0) = Text.indented 4 (s.expand 2 (.ref 0)) := by
  intro point s
  have acyclic : s.Acyclic (.ref 2) := by
    apply acyclic_of_older
    intro a v shape found e he b same
    obtain ⟨rfl, c, cell, shaped⟩ := container?_some found
    match a, cell with
    | 0, cell =>
        cases cell
        cases shaped
        cases List.mem_singleton.mp he
        cases same
    | 1, cell =>
        cases cell
        cases shaped
        cases List.mem_singleton.mp he
        cases same
        decide
    | 2, cell =>
        cases cell
        cases shaped
        rcases List.mem_cons.mp he with rfl | he
        · cases same
          decide
        · cases List.mem_singleton.mp he
          cases same
          decide
  have one : s.Unbroken (.int 1) := by
    apply Unbroken.of_line rfl
    rw [Holds.scalar.safeDisplay, Literal.display]
    decide
  have key : '\n' ∉ s.safeDisplay (.text "k") ++ ": " ∧
      '\n' ∉ s.safeDisplay (.text "p") ++ ": " := by
    rw [Holds.scalar.safeDisplay, Holds.scalar.safeDisplay, Literal.display, Literal.display]
    decide
  have list : s.Unbroken (.ref 0) := by
    apply Unbroken.of_container rfl (by decide)
    exact List.forall_mem_singleton.mpr ⟨by decide, one⟩
  have record : s.Unbroken (.ref 1) := by
    apply Unbroken.of_container rfl (by decide)
    exact List.forall_mem_singleton.mpr ⟨by decide, list⟩
  have whole : s.Unbroken (.ref 2) := by
    apply Unbroken.of_container rfl (by decide)
    exact List.forall_mem_cons.mpr ⟨⟨key.1, list⟩,
      List.forall_mem_singleton.mpr ⟨key.2, record⟩⟩
  obtain ⟨-, moved⟩ := expand_compositional s (.ref 2) 2 acyclic whole
  refine ⟨acyclic, whole, moved [0] _ 1 [2] rfl ?_, moved [1, 0] _ 2 [1, 2] rfl ?_⟩
  · exact List.forall_mem_singleton.mpr ⟨[], List.nil_prefix, by simp, rfl⟩
  · refine List.forall_mem_cons.mpr ⟨⟨[1], ?_, by simp, rfl⟩, List.forall_mem_singleton.mpr ?_⟩
    · exact List.cons_prefix_cons.mpr ⟨rfl, List.nil_prefix⟩
    · exact ⟨[], List.nil_prefix, by simp, rfl⟩

end Store

end Stencil
