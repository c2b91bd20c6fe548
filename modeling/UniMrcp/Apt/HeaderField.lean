import UniMrcp.Apt.StringTable

/-!
# Header fields and header sections

A model of `apr-toolkit/src/apt_header_field.c`.  A header section is a ring
of fields and an array that finds a field by its numeric id.  The array
holds pointers to the fields of the ring, so every field has an address, and
the section counts the addresses it has handed out.
-/

namespace UniMrcp.Apt

open UniMrcp.Lib

/-- `UNKNOWN_HEADER_FIELD_ID`, which is `(apr_size_t)-1` -/
def unknownHeaderFieldId : Nat := 2 ^ 64 - 1

/-- `apt_header_field_t` -/
structure HeaderField where
  /-- the address of the field -/
  addr : Nat
  name : Bytes
  value : Bytes
  id : Nat
  deriving Repr, DecidableEq

/-- `apt_header_section_t` -/
structure HeaderSection where
  ring : List HeaderField
  /-- the array of pointers; its length is `arr_size` -/
  arr : List (Option Nat)
  /-- the next address `apt_header_field_alloc` returns -/
  nextAddr : Nat
  deriving Repr, DecidableEq

namespace HeaderSection

/-- `apt_header_section_init` -/
def empty : HeaderSection := ⟨[], [], 0⟩

/-- `arr[id]` is set -/
def isSet (header : HeaderSection) (id : Nat) : Bool :=
  (header.arr.getD id none).isSome

/-- The names and values of the ring in order. -/
def pairs (header : HeaderSection) : List (Bytes × Bytes) :=
  header.ring.map (fun f => (f.name, f.value))

end HeaderSection

section

variable (header : HeaderSection)

/-- `apt_header_section_array_alloc` -/
def aptHeaderSectionArrayAlloc (maxFieldCount : Nat) : HeaderSection :=
  if maxFieldCount = 0 then header
  else { header with arr := List.replicate maxFieldCount none }

/-- `apt_header_field_alloc`, with the strings and the id set afterwards. -/
def aptHeaderFieldAlloc (name value : Bytes) (id : Nat) : HeaderField × HeaderSection :=
  (⟨header.nextAddr, name, value, id⟩, { header with nextAddr := header.nextAddr + 1 })

/-- `apt_header_section_field_add` -/
def aptHeaderSectionFieldAdd (field : HeaderField) : Bool × HeaderSection :=
  if field.id < header.arr.length then
    if header.isSet field.id then (false, header)
    else (true, { header with
      ring := header.ring ++ [field], arr := header.arr.set field.id (some field.addr) })
  else (true, { header with ring := header.ring ++ [field] })

/-- `apt_header_section_field_set` -/
def aptHeaderSectionFieldSet (field : HeaderField) : Bool × HeaderSection :=
  if field.id ≥ header.arr.length then (false, header)
  else if header.isSet field.id then (false, header)
  else (true, { header with arr := header.arr.set field.id (some field.addr) })

/-- `apt_header_section_field_remove` -/
def aptHeaderSectionFieldRemove (field : HeaderField) : HeaderSection :=
  { header with
    ring := header.ring.filter (fun f => f.addr != field.addr)
    arr := if field.id < header.arr.length then header.arr.set field.id none
      else header.arr }

/-- `apt_header_section_field_check` -/
def aptHeaderSectionFieldCheck (id : Nat) : Bool :=
  header.isSet id

/-- `apt_header_section_field_get` -/
def aptHeaderSectionFieldGet (id : Nat) : Option HeaderField :=
  (header.arr.getD id none).bind (fun addr => header.ring.find? (fun f => f.addr == addr))

end

end UniMrcp.Apt
