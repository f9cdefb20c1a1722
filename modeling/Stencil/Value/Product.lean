import Stencil.Value.Act

/-! # Multiples of values

A value times a natural number: numbers are multiplied, texts and sequences are
repeated, and nothing else has multiples.
-/

namespace Stencil

def repeatItems {α : Type} (n : Nat) (xs : List α) : List α := (List.replicate n xs).flatten

/-- A decimal number times a natural one, rounded to 28 digits. -/
def Decimal.times (n : Nat) : Decimal → Decimal
  | .finite s c e =>
      let product := c * n
      if (natText product).length > 28 then
        let (c, e) := Decimal.roundTo 28 product e
        .finite s c e
      else .finite s product e
  | .infinity s => if n = 0 then .nan false false none else .infinity s
  | .nan s _ code => .nan s false code

namespace Value

def times (n : Nat) (v : Value) : Act Value := do
  let factor := Binary64.ofRatio false n 1
  match v with
  | scalar (.bool b) => pure (.int (if b then n else 0))
  | scalar (.int i) => pure (.int (i * n))
  | scalar (.float x) => pure (.float (x.mul factor))
  | scalar (.complex re im) =>
      let zero := Binary64.zero false
      pure (.scalar (.complex ((re.mul factor).add (im.mul zero).neg)
        ((re.mul zero).add (im.mul factor))))
  | scalar (.text t) => pure (.text (repeatItems n t))
  | scalar (.bytes bs) => pure (.scalar (.bytes (repeatItems n bs)))
  | decimal d => pure (.decimal (d.times n))
  | ref a => do
      let s ← get
      match s[a]? with
      | some (.list xs) => Act.allocate (.list (repeatItems n xs))
      | some (.tuple xs) => Act.allocate (.tuple (repeatItems n xs))
      | some (.namedTuple _ es) => Act.allocate (.tuple (repeatItems n (es.map (·.2))))
      | some (.array code xs) => Act.allocate (.array code (repeatItems n xs))
      | some (.deque xs limit) => Act.allocate (.deque (keepLast limit (repeatItems n xs)) limit)
      | some (.wrappedList b) =>
          match s[b]? with
          | some (.list xs) => do
              let (d, s) := s.allocate (.list (repeatItems n xs))
              set s
              Act.allocate (.wrappedList d)
          | _ => Act.fail .badType
      | _ => Act.fail .badType
  | _ => Act.fail .badType

end Value

end Stencil
