import Camcorder.Error
import Camcorder.Jpeg.Code

/-!
# Segments of a JPEG image

An image is a sequence of segments, each begun by a marker. Those before the scan define quantizers, codes, the
dimensions and the restart interval; `Header.read` collects them up to the scan, whose data follows.
-/

namespace Camcorder.Jpeg

/-- A component as the frame segment describes it: its identifier, how many blocks of it an interleaved unit has
in each direction, and its quantizer. -/
structure Component where
  id : Nat
  across : Nat
  down : Nat
  quantizer : Nat
deriving DecidableEq, Repr

/-- A component as the scan segment describes it: its identifier and its codes. -/
structure Choice where
  id : Nat
  dc : Nat
  ac : Nat
deriving DecidableEq, Repr

/-- What the segments before the scan data say. -/
structure Header where
  quantizers : List (Nat × Array Nat) := []
  dcCodes : List (Nat × Code) := []
  acCodes : List (Nat × Code) := []
  width : Nat := 0
  height : Nat := 0
  components : List Component := []
  restartInterval : Nat := 0
  scan : List Choice := []
deriving Repr

namespace Header

/-- Reads the quantizers of a segment: a byte with the size of the factors and the number of the quantizer, then
64 factors. -/
def addQuantizers (h : Header) (body : List UInt8) : Except DecodeCause Header :=
  match body with
  | [] => .ok h
  | b :: rest =>
    let wide := b.toNat / 16 != 0
    let size := if wide then 128 else 64
    if rest.length < size then .error .cutShort
    else
      let bytes := (rest.take size).toArray
      let factors := Array.ofFn (n := 64) fun i =>
        if wide then (bytes.getD (2 * i.val) 0).toNat * 256 + (bytes.getD (2 * i.val + 1) 0).toNat
        else (bytes.getD i.val 0).toNat
      addQuantizers { h with quantizers := (b.toNat % 16, factors) :: h.quantizers } (rest.drop size)
termination_by body.length
decreasing_by simp only [List.length_drop, List.length_cons]; omega

/-- Reads the codes of a segment: a byte with the kind and the number of the code, sixteen counts, then the
symbols. -/
def addCodes (h : Header) (body : List UInt8) : Except DecodeCause Header :=
  match body with
  | [] => .ok h
  | b :: rest =>
    let counts := (rest.take 16).map UInt8.toNat
    let rest := rest.drop 16
    if counts.length < 16 ∨ rest.length < total counts then .error .cutShort
    else
      let code : Code := { counts, symbols := (rest.take (total counts)).toArray }
      let h := if b.toNat / 16 == 0 then { h with dcCodes := (b.toNat % 16, code) :: h.dcCodes }
        else { h with acCodes := (b.toNat % 16, code) :: h.acCodes }
      addCodes h (rest.drop (total counts))
termination_by body.length
decreasing_by simp only [List.length_drop, List.length_cons]; omega

/-- The triples of a list, as far as there are three. -/
def triples : List UInt8 → List (Nat × Nat × Nat)
  | a :: b :: c :: rest => (a.toNat, b.toNat, c.toNat) :: triples rest
  | _ => []

/-- Reads the frame segment: eight bits for each sample, the dimensions and the components. -/
def setFrame (h : Header) : List UInt8 → Except DecodeCause Header
  | 8 :: h1 :: h0 :: w1 :: w0 :: count :: rest =>
    let components := (triples rest).map fun (id, sampling, quantizer) =>
      { id, across := sampling / 16, down := sampling % 16, quantizer : Component }
    if components.length != count.toNat then .error .cutShort
    else if components.any fun c => c.across == 0 || c.down == 0 then .error .inconsistent
    else .ok { h with
      width := w1.toNat * 256 + w0.toNat
      height := h1.toNat * 256 + h0.toNat
      components }
  | _ => .error .inconsistent

/-- The pairs of a list, as far as there are two. -/
def pairs : List UInt8 → List (Nat × Nat)
  | a :: b :: rest => (a.toNat, b.toNat) :: pairs rest
  | _ => []

/-- Reads the scan segment: which codes each component uses. -/
def setScan (h : Header) : List UInt8 → Except DecodeCause Header
  | count :: rest =>
    let choices := (pairs (rest.take (2 * count.toNat))).map fun (id, codes) =>
      { id, dc := codes / 16, ac := codes % 16 : Choice }
    if choices.length != count.toNat then .error .cutShort else .ok { h with scan := choices }
  | [] => .error .cutShort

/-- Whether a marker begins a frame of another coding process than the baseline one. -/
def isOtherFrame (marker : UInt8) : Bool :=
  0xC1 ≤ marker && marker ≤ 0xCF && marker != 0xC4 && marker != 0xC8 && marker != 0xCC

/-- Takes up one segment. Segments of no interest here are passed over. -/
def add (h : Header) (marker : UInt8) (body : List UInt8) : Except DecodeCause Header :=
  if marker == 0xDB then h.addQuantizers body
  else if marker == 0xC4 then h.addCodes body
  else if marker == 0xC0 then h.setFrame body
  else if isOtherFrame marker then .error .notBaseline
  else if marker == 0xDD then
    match pairs body with
    | (a, b) :: _ => .ok { h with restartInterval := a * 256 + b }
    | [] => .error .cutShort
  else if marker == 0xDA then h.setScan body
  else .ok h

/-- Reads the segments from position `i` on, up to and with the scan segment, and answers where the scan data
begins. -/
def readFrom (h : Header) (data : Bytes) (i : Nat) : Except DecodeCause (Header × Nat) :=
  if _ : i + 1 < data.size then
    let marker := data[i + 1]
    if data[i] != 0xFF then .error .inconsistent
    else if marker == 0xFF then readFrom h data (i + 1)
    else if marker == 0xD9 then .error .cutShort
    else match Bytes.readBE16? data (i + 2) with
      | none => .error .cutShort
      | some len =>
        if len < 2 then .error .inconsistent
        else match Bytes.slice? data (i + 4) (len - 2) with
          | none => .error .cutShort
          | some body => do
            let h ← h.add marker body.toList
            if marker == 0xDA then return (h, i + 2 + len) else readFrom h data (i + 2 + len)
  else .error .cutShort
termination_by data.size - i

/-- Reads the segments of an image, and answers where the data of its scan begins. -/
def read (data : Bytes) : Except DecodeCause (Header × Nat) :=
  if Bytes.startsWith data #[0xFF, 0xD8] then readFrom {} data 2 else .error .noImage

end Header

end Camcorder.Jpeg
