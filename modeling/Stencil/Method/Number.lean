import Stencil.Value.Act

/-! # Methods of numbers and bytes -/

namespace Stencil.Method

/-- How many bits the magnitude of an integer has. -/
def bitLength (i : Int) : Nat := if i = 0 then 0 else i.natAbs.log2 + 1

def callInteger (i : Int) (name : String) (args : List Value) : Act Value := do
  match name, args with
  | "bit_length", [] => pure (.int (bitLength i))
  | "__add__", [v] =>
      match v.integer? with
      | some j => pure (.int (i + j))
      | none => pure .notImplemented
  | _, _ => Act.fail .badType

def lowestTerms (num : Int) (den : Nat) : Int × Nat :=
  let g := Nat.gcd num.natAbs den
  (num / (g : Int), den / g)

def callFloat (x : Binary64) (name : String) (args : List Value) : Act Value := do
  match name, args with
  | "is_integer", [] =>
      match x.toRatio? with
      | some (n, d) => pure (.truth (n % (d : Int) == 0))
      | none => pure (.truth false)
  | "as_integer_ratio", [] =>
      match x with
      | .nan => Act.fail .badValue
      | .infinity _ => Act.fail .overflow
      | x =>
          match x.toRatio? with
          | some (n, d) =>
              let (n, d) := lowestTerms n d
              Act.allocate (.tuple [.int n, .int d])
          | none => Act.fail .badValue
  | _, _ => Act.fail .badType

/-- A byte that continues a character. -/
def isContinuation (b : UInt8) : Bool := 0x80 ≤ b && b < 0xc0

/-- The text that bytes encode, in the encoding of one to four bytes a character. -/
def decodeWide : List UInt8 → Option Text
  | [] => some []
  | a :: rest =>
      let char (n low : Nat) : Option Char :=
        if low ≤ n ∧ n.isValidChar then some (Char.ofNat n) else none
      let low6 (b : UInt8) : Nat := b.toNat % 64
      if a < 0x80 then (decodeWide rest).map (Char.ofNat a.toNat :: ·)
      else match rest with
        | b :: rest =>
            if !isContinuation b then none
            else if 0xc2 ≤ a ∧ a < 0xe0 then do
              let c ← char (a.toNat % 32 * 64 + low6 b) 0x80
              (decodeWide rest).map (c :: ·)
            else match rest with
              | d :: rest =>
                  if !isContinuation d then none
                  else if 0xe0 ≤ a ∧ a < 0xf0 then do
                    let c ← char ((a.toNat % 16 * 64 + low6 b) * 64 + low6 d) 0x800
                    (decodeWide rest).map (c :: ·)
                  else match rest with
                    | e :: rest =>
                        if isContinuation e ∧ 0xf0 ≤ a ∧ a < 0xf5 then do
                          let c ← char (((a.toNat % 8 * 64 + low6 b) * 64 + low6 d) * 64 + low6 e)
                            0x10000
                          (decodeWide rest).map (c :: ·)
                        else none
                    | [] => none
              | [] => none
        | [] => none

/-- The text that bytes encode under a named encoding; an unknown name is a fault. -/
def decodeBytes (bs : List UInt8) (encoding : Text) : Act Text :=
  let name := String.ofList ((encoding.map Char.toLower).filter fun c => c != '-' && c != '_')
  let narrow (limit : Nat) : Option Text :=
    if bs.all fun b => b.toNat < limit then some (bs.map fun b => Char.ofNat b.toNat) else none
  match name with
  | "utf8" => Act.orFail (.other "UnicodeDecodeError") (decodeWide bs)
  | "ascii" => Act.orFail (.other "UnicodeDecodeError") (narrow 128)
  | "latin1" | "iso88591" => Act.orFail (.other "UnicodeDecodeError") (narrow 256)
  | _ => Act.fail (.other "LookupError")

def callBytes (bs : List UInt8) (name : String) (args : List Value) : Act Value := do
  match name, args with
  | "hex", [] => pure (.text (bs.flatMap fun b => hexPadded 2 b.toNat))
  | "decode", [] => do
      let t ← decodeBytes bs "utf8"
      pure (.text t)
  | "decode", [v] => do
      let encoding ← Act.orFail .badType v.text?
      let t ← decodeBytes bs encoding
      pure (.text t)
  | _, _ => Act.fail .badType

end Stencil.Method
