import WireSql.Proofs.Wire.Reading
import WireSql.Wire.Request

/-!
# `WireSql.Proofs.Wire.FieldSequences`: any sequence of fields is read back

A payload is written as fields one behind the other, and nothing in it says where one of them ends. Each kind
of field has its read (`Field.request`), and that takes up the bytes of the field and no more, whatever
follows them (`finds_request`). So reads that follow the kinds of the fields follow the fields.

Main statement: `fields_read_back`.
-/

namespace WireSql.Wire

namespace Field

/-- The read that a field is written for. -/
def request : Field → Request
  | u8 _ => .u8
  | u16 _ => .u16
  | u24 _ => .u24
  | u32 _ => .u32
  | u64 _ => .u64
  | prefixedInt _ => .prefixedInt
  | prefixedBytes _ => .prefixedBytes
  | prefixedText _ => .prefixedText
  | cell _ => .cell
  | zeroEndedText _ => .zeroEndedText
  | bytes b => .bytes b.length
  | zeros n => .bytes n

/-- The value that was written. Padding is as many zeros. -/
def found : Field → Found
  | u8 n => .u8 n
  | u16 n => .u16 n
  | u24 n => .u32 n
  | u32 n => .u32 n
  | u64 n => .u64 n
  | prefixedInt n => .u64 n
  | prefixedBytes b => .bytes b
  | prefixedText s => .text s
  | cell c => .cell c
  | zeroEndedText s => .text s
  | bytes b => .bytes b
  | zeros n => .bytes (List.replicate n 0)

/-- **The form of the field holds all of its value**: three bytes hold the number, 64 bits hold the length of
what stands behind a prefix, and a text in front of a zero has none in it. -/
def IsReadable : Field → Prop
  | u24 n => n.toNat < 0x1000000
  | prefixedBytes b => b.length < UInt64.size
  | prefixedText s => (Text.encode s).length < UInt64.size
  | cell c => Read.cellLength c < UInt64.size
  | zeroEndedText s => '\x00' ∉ s.toList
  | _ => True

variable {f : Field} {fields : List Field}

/-- **A field is found by its read**, wherever it stands and whatever follows it. -/
theorem finds_request (h : f.IsReadable) : Read.Finds f.request.read f.encode f.found := by
  cases f with
  | u8 n => exact Read.finds_map (Read.finds_u8 n) Found.u8
  | u16 n => exact Read.finds_map (Read.finds_u16 n) Found.u16
  | u24 n => exact Read.finds_map (Read.finds_u24 h) Found.u32
  | u32 n => exact Read.finds_map (Read.finds_u32 n) Found.u32
  | u64 n => exact Read.finds_map (Read.finds_u64 n) Found.u64
  | prefixedInt n => exact Read.finds_map (Read.finds_prefixedInt n) Found.u64
  | prefixedBytes b => exact Read.finds_map (Read.finds_prefixedBytes h) Found.bytes
  | prefixedText s => exact Read.finds_map (Read.finds_prefixedText h) Found.text
  | cell c => exact Read.finds_map (Read.finds_cell h) Found.cell
  | zeroEndedText s => exact Read.finds_map (Read.finds_zeroEndedText h) Found.text
  | bytes b => exact Read.finds_map (Read.finds_bytes b) Found.bytes
  | zeros n =>
    have hread := Read.finds_map (Read.finds_bytes (List.replicate n 0)) Found.bytes
    rwa [List.length_replicate] at hread

/-- **Fields are found one after the other** from any position in a payload. -/
theorem readAll_encodeAll (h : ∀ f ∈ fields, f.IsReadable) (position : Nat) (suffix : Bytes) :
    Request.readAll (fields.map request) ⟨position, encodeAll fields ++ suffix⟩ =
      (fields.map fun f => some f.found, ⟨position + (encodeAll fields).length, suffix⟩) := by
  induction fields generalizing position with
  | nil => rfl
  | cons f fields ih =>
    rw [List.forall_mem_cons] at h
    have hbytes : encodeAll (f :: fields) = f.encode ++ encodeAll fields := List.flatMap_cons
    rw [hbytes, List.append_assoc, List.map_cons, Request.readAll, finds_request h.1 position]
    dsimp only
    rw [ih h.2, List.map_cons, List.length_append, Nat.add_assoc]

end Field

/-- **Any sequence of fields is read back**, each value as it was written, and the reader then stands at what
follows them. No prefixed integer among them begins with the mark of NULL or with `FF`. -/
theorem fields_read_back (fields : List Field) (h : ∀ f ∈ fields, f.IsReadable) (suffix : Bytes) :
    Request.readAll (fields.map Field.request) (Reader.ofBytes (Field.encodeAll fields ++ suffix)) =
        (fields.map fun f => some f.found, ⟨(Field.encodeAll fields).length, suffix⟩) ∧
      ∀ n, ∃ first more, ofPrefixedInt n = first :: more ∧ first ≠ 0xFB ∧ first ≠ 0xFF := by
  constructor
  · have hread := Field.readAll_encodeAll h 0 suffix
    rwa [Nat.zero_add] at hread
  · intro n
    obtain ⟨first, more, hcons, hnull, herr, -, -⟩ := (prefixedForm n).exists_cons
    exact ⟨first, more, hcons, hnull, herr⟩

/-- A field of every kind, with integers on both sides of each width, NULL beside the empty text, and behind
them bytes that would go on with any of them. -/
theorem fields_read_back_every_kind :
    let fields : List Field := [
      .prefixedInt 250, .prefixedInt 251, .prefixedInt 0xFFFF, .prefixedInt 0x10000, .prefixedInt 0xFFFFFF,
      .prefixedInt 0x1000000, .prefixedInt 0xFFFFFFFFFFFFFFFF, .cell none, .cell (some ""), .cell (some "é"),
      .u8 0xFB, .u16 0xFFFF, .u24 0xFFFFFF, .u32 0xFFFFFFFF, .u64 0xFE, .prefixedBytes [0xFB, 0],
      .prefixedText "日", .zeroEndedText "", .zeroEndedText "a", .bytes [0, 0xFF], .zeros 3]
    (∀ f ∈ fields, f.IsReadable) ∧
      Request.readAll (fields.map Field.request) (Reader.ofBytes (Field.encodeAll fields ++ [0, 0xFB, 0xFF])) =
        (fields.map fun f => some f.found, ⟨(Field.encodeAll fields).length, [0, 0xFB, 0xFF]⟩) := by
  intro fields
  have hreadable : ∀ f ∈ fields, f.IsReadable := by
    simp only [fields, List.forall_mem_cons, Field.IsReadable, List.not_mem_nil, false_implies,
      implies_true, true_and, and_true]
    decide
  exact ⟨hreadable, (fields_read_back fields hreadable [0, 0xFB, 0xFF]).1⟩

end WireSql.Wire
