import Mathlib.Data.List.Nodup
import UniMrcp.Mrcp.HeaderFields

/-!
# The parameters of a channel

What SET-PARAMS, GET-PARAMS and the requests that inherit do to header fields.
A header section keeps its fields in a ring, and finds those with a known id
through an array; the functions here ask the array and append to the ring.

`addAbsent` is the loop body that GET-PARAMS and the requests share, and
`foldl_addAbsent` says what it adds.  `Properties` is the invariant of the
header that SET-PARAMS writes.  `params_served_iff` puts them together: for a
field that was never set, GET-PARAMS is to return the name only, but copies the
field of the request with its value.
-/

namespace UniMrcp.Mrcp

open UniMrcp.Lib UniMrcp.Apt

/-! ## Sections -/

/-- The fields of an id. -/
def fieldsWith (ring : List HeaderField) (id : Nat) : List HeaderField :=
  ring.filter (fun field => field.id == id)

/-- The array knows the ids that occur in the ring, and points to such a field. -/
def Indexed (header : HeaderSection) : Prop :=
  ∀ id < header.arr.length,
    (∃ field ∈ header.ring, field.id = id ∧ header.arr.getD id none = some field.addr) ∨
      (header.arr.getD id none = none ∧ ∀ field ∈ header.ring, field.id ≠ id)

/-- A new field is added. -/
def sectionAdd (header : HeaderSection) (name value : Bytes) (id : Nat) : HeaderSection :=
  (aptHeaderSectionFieldAdd (aptHeaderFieldAlloc header name value id).2
    (aptHeaderFieldAlloc header name value id).1).2

theorem headerSection_headerFieldAdd (header : MessageHeader) (name value : Bytes) (id : Nat) :
    (headerFieldAdd header name value id).2.headerSection =
      sectionAdd header.headerSection name value id := rfl

variable {header : HeaderSection} {id known : Nat} {field : HeaderField}
  {ring fields added seen : List HeaderField} {text : HeaderField → Bytes × Bytes}

theorem sectionAdd_absent (hunset : header.arr.getD id none = none) (name value : Bytes) :
    sectionAdd header name value id =
      { ring := header.ring ++ [⟨header.nextAddr, name, value, id⟩]
        arr := header.arr.set id (some header.nextAddr)
        nextAddr := header.nextAddr + 1 } := by
  have hset : HeaderSection.isSet { header with nextAddr := header.nextAddr + 1 } id = false := by
    unfold HeaderSection.isSet
    rw [hunset]
    rfl
  show (aptHeaderSectionFieldAdd { header with nextAddr := header.nextAddr + 1 }
    ⟨header.nextAddr, name, value, id⟩).2 = _
  unfold aptHeaderSectionFieldAdd
  split
  · rw [hset]
    rfl
  · next hunknown =>
    -- the array does not have an unknown id
    rw [List.set_eq_of_length_le (Nat.le_of_not_lt hunknown)]

theorem getD_unknown (hid : header.arr.length ≤ id) : header.arr.getD id none = none := by
  rw [List.getD_eq_getElem?_getD, List.getElem?_eq_none hid]
  rfl

theorem fieldGet_unset (hunset : header.arr.getD id none = none) :
    aptHeaderSectionFieldGet header id = none := by
  unfold aptHeaderSectionFieldGet
  rw [hunset]
  rfl

theorem fieldGet_set (hmem : field ∈ header.ring)
    (hset : header.arr.getD id none = some field.addr) :
    ∃ present, aptHeaderSectionFieldGet header id = some present := by
  unfold aptHeaderSectionFieldGet
  rw [hset]
  refine Option.isSome_iff_exists.mp (List.find?_isSome.mpr ⟨field, hmem, ?_⟩)
  exact beq_self_eq_true _

/-! ## Adding the fields that are absent -/

/-- The fields are added that have no id, or one that is not set. -/
def addAbsent (text : HeaderField → Bytes × Bytes) (header : HeaderSection)
    (field : HeaderField) : HeaderSection :=
  match aptHeaderSectionFieldGet header field.id with
  | some _ => header
  | none => sectionAdd header (text field).1 (text field).2 field.id

/-- What the fields of a list add to a ring: for an id of the array, the first
field if there was none; the fields without id, all. -/
structure Adds (text : HeaderField → Bytes × Bytes) (fields : List HeaderField) (known : Nat)
    (ring added : List HeaderField) : Prop where
  present : ∀ id < known, (∃ field ∈ ring, field.id = id) → fieldsWith added id = []
  absent : ∀ id < known, (∀ field ∈ ring, field.id ≠ id) →
    (fieldsWith added id).map fieldPair =
      ((fields.find? (fun field => field.id == id)).map text).toList
  unknown : (added.filter (fun field => known ≤ field.id)).map fieldPair =
    (fields.filter (fun field => known ≤ field.id)).map text

/-- A field is appended, and the array points to it if it has its id. -/
theorem Indexed.appendSet {arr : List (Option Nat)} {nextAddr : Nat}
    (h : Indexed ⟨ring, arr, nextAddr⟩) (field : HeaderField) (nextAddr' : Nat) :
    Indexed ⟨ring ++ [field], arr.set field.id (some field.addr), nextAddr'⟩ := by
  intro id hlt
  rw [List.length_set] at hlt
  by_cases heq : id = field.id
  · subst heq
    left
    refine ⟨field, by simp, rfl, ?_⟩
    simp [List.getElem?_set_self hlt]
  · have hsame : (arr.set field.id (some field.addr)).getD id none = arr.getD id none := by
      rw [List.getD_eq_getElem?_getD, List.getElem?_set_ne (Ne.symm heq),
        List.getD_eq_getElem?_getD]
    rw [hsame]
    rcases h id hlt with ⟨found, hmem, hfound, hset⟩ | ⟨hunset, hnone⟩
    · exact .inl ⟨found, List.mem_append_left _ hmem, hfound, hset⟩
    · exact .inr ⟨hunset, List.forall_mem_append.mpr ⟨hnone, by simpa using Ne.symm heq⟩⟩

/-- A field is appended that has no id, or one that is already set. -/
theorem Indexed.append {arr : List (Option Nat)} {nextAddr : Nat}
    (h : Indexed ⟨ring, arr, nextAddr⟩) (field : HeaderField)
    (hid : arr.length ≤ field.id ∨ ∃ found ∈ ring, found.id = field.id) :
    Indexed ⟨ring ++ [field], arr, nextAddr⟩ := by
  intro id hlt
  dsimp only at hlt ⊢
  rcases h id hlt with ⟨found, hmem, hfound, hset⟩ | ⟨hunset, hnone⟩
  · exact .inl ⟨found, List.mem_append_left _ hmem, hfound, hset⟩
  · refine .inr ⟨hunset, List.forall_mem_append.mpr ⟨hnone, ?_⟩⟩
    rcases hid with hunknown | ⟨other, hother, heq⟩
    · simp only [List.mem_singleton, forall_eq]
      omega
    · simpa [← heq] using hnone other hother

theorem fieldsWith_cons (field : HeaderField) (ring : List HeaderField) (id : Nat) :
    fieldsWith (field :: ring) id =
      if field.id = id then field :: fieldsWith ring id else fieldsWith ring id := by
  simp [fieldsWith, List.filter_cons]

theorem fieldsWith_append (ring : List HeaderField) (field : HeaderField) (id : Nat) :
    fieldsWith (ring ++ [field]) id =
      if field.id = id then fieldsWith ring id ++ [field] else fieldsWith ring id := by
  simp only [fieldsWith, List.filter_append, List.filter_cons, beq_iff_eq]
  split
  · rfl
  · exact List.append_nil _

/-- A field whose id is set adds nothing. -/
theorem Adds.skip (hknown : field.id < known) (hpresent : ∃ found ∈ ring, found.id = field.id)
    (h : Adds text fields known ring added) : Adds text (field :: fields) known ring added := by
  refine ⟨h.present, fun id hid hnone => ?_, ?_⟩
  · have hne : field.id ≠ id := by
      obtain ⟨found, hmem, hfound⟩ := hpresent
      rw [← hfound]
      exact hnone found hmem
    rw [List.find?_cons_of_neg (by simpa using hne)]
    exact h.absent id hid hnone
  · rw [List.filter_cons_of_neg (by simpa using hknown)]
    exact h.unknown

/-- A field whose id is not set is added, and hides the later ones with its id. -/
theorem Adds.add {addr : Nat} (habsent : field.id < known → ∀ found ∈ ring, found.id ≠ field.id)
    (h : Adds text fields known (ring ++ [⟨addr, (text field).1, (text field).2, field.id⟩])
      added) :
    Adds text (field :: fields) known ring
      (⟨addr, (text field).1, (text field).2, field.id⟩ :: added) := by
  refine ⟨fun id hid hpresent => ?_, fun id hid hnone => ?_, ?_⟩
  · obtain ⟨found, hmem, rfl⟩ := hpresent
    have hne : field.id ≠ found.id := fun heq =>
      habsent (heq ▸ hid) found hmem heq.symm
    rw [fieldsWith_cons, if_neg hne]
    exact h.present found.id hid ⟨found, List.mem_append_left _ hmem, rfl⟩
  · rw [fieldsWith_cons]
    by_cases heq : field.id = id
    · subst heq
      rw [if_pos rfl, List.find?_cons_of_pos (by simp),
        h.present field.id hid ⟨_, List.mem_append_right _ List.mem_cons_self, rfl⟩]
      rfl
    · rw [if_neg heq, List.find?_cons_of_neg (by simpa using heq)]
      exact h.absent id hid (List.forall_mem_append.mpr ⟨hnone, by simpa using heq⟩)
  · simp only [List.filter_cons]
    split
    · rw [List.map_cons, h.unknown]
      rfl
    · exact h.unknown

theorem foldl_addAbsent (text : HeaderField → Bytes × Bytes) (fields : List HeaderField)
    (h : Indexed header) :
    ∃ added, (fields.foldl (addAbsent text) header).ring = header.ring ++ added ∧
      Adds text fields header.arr.length header.ring added := by
  induction fields generalizing header with
  | nil =>
    refine ⟨[], by simp, ?_⟩
    constructor
    · intro id _ _
      rfl
    · intro id _ _
      rfl
    · rfl
  | cons field fields ih =>
    rw [List.foldl_cons]
    have hstored : (∃ found ∈ header.ring, field.id < header.arr.length ∧ found.id = field.id ∧
          header.arr.getD field.id none = some found.addr) ∨
        header.arr.getD field.id none = none ∧
          (field.id < header.arr.length → ∀ found ∈ header.ring, found.id ≠ field.id) := by
      by_cases hknown : field.id < header.arr.length
      · rcases h field.id hknown with ⟨found, hmem, hfound, hset⟩ | ⟨hunset, hnone⟩
        · exact .inl ⟨found, hmem, hknown, hfound, hset⟩
        · exact .inr ⟨hunset, fun _ => hnone⟩
      · exact .inr ⟨getD_unknown (Nat.le_of_not_lt hknown), fun hlt => absurd hlt hknown⟩
    rcases hstored with ⟨found, hmem, hknown, hfound, hset⟩ | ⟨hunset, hnone⟩
    · obtain ⟨present, hget⟩ := fieldGet_set hmem hset
      simp only [addAbsent, hget]
      obtain ⟨added, hring, hadds⟩ := ih h
      exact ⟨added, hring, hadds.skip hknown ⟨found, hmem, hfound⟩⟩
    · simp only [addAbsent, fieldGet_unset hunset, sectionAdd_absent hunset]
      obtain ⟨added, hring, hadds⟩ := ih
        (Indexed.appendSet h ⟨header.nextAddr, _, _, field.id⟩ _)
      rw [List.length_set] at hadds
      refine ⟨_, ?_, hadds.add hnone⟩
      rw [hring, List.append_assoc]
      rfl

/-! ## Setting -/

/-- The value of the last field with an id. -/
def lastValue (fields : List HeaderField) (id : Nat) : Option Bytes :=
  (fieldsWith fields id).getLast?.map (fun field => field.value)

theorem lastValue_append (fields : List HeaderField) (field : HeaderField) (id : Nat) :
    lastValue (fields ++ [field]) id =
      if field.id = id then some field.value else lastValue fields id := by
  unfold lastValue
  rw [fieldsWith_append]
  split
  · simp
  · rfl

/-- The value of the field at an address is replaced. -/
def valueSet (addr : Nat) (value : Bytes) (field : HeaderField) : HeaderField :=
  if field.addr == addr then { field with value := value } else field

/-- What `mrcp_header_fields_set` does with a field. -/
def setField (header : HeaderSection) (field : HeaderField) : HeaderSection :=
  match aptHeaderSectionFieldGet header field.id with
  | some present => { header with ring := header.ring.map (valueSet present.addr field.value) }
  | none => sectionAdd header field.name field.value field.id

/-- The header behind the fields of `seen`: a known id has at most one field,
with the last value; the fields without id are all there. -/
structure Properties (known : Nat) (header : HeaderSection) (seen : List HeaderField) : Prop where
  length : header.arr.length = known
  fresh : ∀ field ∈ header.ring, field.addr < header.nextAddr
  nodup : (header.ring.map (fun field => field.addr)).Nodup
  stored : ∀ id < known,
    (lastValue seen id = none ∧ header.arr.getD id none = none ∧ fieldsWith header.ring id = []) ∨
      ∃ field, fieldsWith header.ring id = [field] ∧
        header.arr.getD id none = some field.addr ∧ lastValue seen id = some field.value
  unknown : (header.ring.filter (fun field => known ≤ field.id)).map fieldPair =
    (seen.filter (fun field => known ≤ field.id)).map fieldPair

theorem mem_of_fieldsWith (h : fieldsWith ring id = [field]) : field ∈ ring ∧ field.id = id := by
  have hmem : field ∈ fieldsWith ring id := by rw [h]; exact List.mem_cons_self
  unfold fieldsWith at hmem
  rw [List.mem_filter, beq_iff_eq] at hmem
  exact hmem

/-- The field that the array points to. -/
theorem Properties.get (h : Properties known header seen)
    (hfield : fieldsWith header.ring id = [field])
    (hset : header.arr.getD id none = some field.addr) :
    aptHeaderSectionFieldGet header id = some field := by
  obtain ⟨hmem, -⟩ := mem_of_fieldsWith hfield
  unfold aptHeaderSectionFieldGet
  rw [hset]
  show header.ring.find? (fun f => f.addr == field.addr) = some field
  have hsome : (header.ring.find? (fun f => f.addr == field.addr)).isSome :=
    List.find?_isSome.mpr ⟨field, hmem, beq_self_eq_true _⟩
  obtain ⟨found, hfound⟩ := Option.isSome_iff_exists.mp hsome
  have haddr : found.addr = field.addr := by simpa using List.find?_some hfound
  rw [hfound, List.inj_on_of_nodup_map h.nodup (List.mem_of_find?_eq_some hfound) hmem haddr]

section

variable {known : Nat} {header : HeaderSection} {seen : List HeaderField} {field : HeaderField}

theorem valueSet_id (addr : Nat) (value : Bytes) (field : HeaderField) :
    (valueSet addr value field).id = field.id := by
  unfold valueSet
  split <;> rfl

theorem valueSet_addr (addr : Nat) (value : Bytes) (field : HeaderField) :
    (valueSet addr value field).addr = field.addr := by
  unfold valueSet
  split <;> rfl

theorem valueSet_other {addr : Nat} (value : Bytes) (h : field.addr ≠ addr) :
    valueSet addr value field = field := by
  unfold valueSet
  rw [if_neg (by simpa using h)]

section

variable (h : Properties known header seen)
include h

/-- A field whose id is set gets the new value. -/
theorem Properties.replace (hknown : field.id < known) {present : HeaderField}
    (hpresent : fieldsWith header.ring field.id = [present])
    (hset : header.arr.getD field.id none = some present.addr) :
    Properties known
      { header with ring := header.ring.map (valueSet present.addr field.value) }
      (seen ++ [field]) := by
  obtain ⟨hmem, hid⟩ := mem_of_fieldsWith hpresent
  have haddr : ∀ f ∈ header.ring, f.id ≠ field.id → f.addr ≠ present.addr := by
    intro f hf hne heq
    have hsame := List.inj_on_of_nodup_map h.nodup hf hmem heq
    exact hne (hsame ▸ hid)
  have hwith : ∀ id, fieldsWith (header.ring.map (valueSet present.addr field.value)) id =
      (fieldsWith header.ring id).map (valueSet present.addr field.value) := by
    intro id
    unfold fieldsWith
    rw [List.filter_map]
    congr 2
    funext f
    simp [valueSet_id]
  refine ⟨h.length, fun f hf => ?_, ?_, fun id hlt => ?_, ?_⟩
  · obtain ⟨old, hold, rfl⟩ := List.mem_map.mp hf
    rw [valueSet_addr]
    exact h.fresh old hold
  · have hsame : (header.ring.map (valueSet present.addr field.value)).map (fun f => f.addr) =
        header.ring.map (fun f => f.addr) := by
      rw [List.map_map]
      exact List.map_congr_left (fun f _ => valueSet_addr _ _ f)
    rw [hsame]
    exact h.nodup
  · rw [hwith, lastValue_append]
    by_cases heq : field.id = id
    · subst heq
      right
      refine ⟨valueSet present.addr field.value present, by rw [hpresent]; rfl, ?_, ?_⟩
      · rw [valueSet_addr]
        exact hset
      · simp [valueSet]
    · rw [if_neg heq]
      rcases h.stored id hlt with ⟨hlast, hunset, hnone⟩ | ⟨f, hf, hset', hlast⟩
      · exact .inl ⟨hlast, hunset, by rw [hnone]; rfl⟩
      · obtain ⟨hmem', hid'⟩ := mem_of_fieldsWith hf
        have hother := valueSet_other field.value (haddr f hmem' (by rw [hid']; exact Ne.symm heq))
        refine .inr ⟨f, ?_, hset', hlast⟩
        rw [hf, List.map_singleton, hother]
  · rw [List.filter_append, List.filter_cons_of_neg (by simpa using hknown), List.filter_nil,
      List.append_nil, ← h.unknown, List.filter_map, List.map_map]
    have hfilter : ((fun f : HeaderField => decide (known ≤ f.id)) ∘
        valueSet present.addr field.value) = fun f => decide (known ≤ f.id) := by
      funext f
      simp [valueSet_id]
    rw [hfilter]
    refine List.map_congr_left (fun f hf => ?_)
    obtain ⟨hmem', hunknown⟩ := List.mem_filter.mp hf
    have hunknown : known ≤ f.id := by simpa using hunknown
    rw [Function.comp_apply, valueSet_other field.value (haddr f hmem' (by omega))]

theorem Properties.nodup_append (name value : Bytes) (id : Nat) :
    ((header.ring ++ [(⟨header.nextAddr, name, value, id⟩ : HeaderField)]).map
      (fun field => field.addr)).Nodup := by
  rw [List.map_append, List.nodup_append]
  refine ⟨h.nodup, by simp, fun addr haddr addr' haddr' => ?_⟩
  obtain ⟨f, hf, rfl⟩ := List.mem_map.mp haddr
  have hlast : addr' = header.nextAddr := by simpa using haddr'
  have hfresh := h.fresh f hf
  omega

theorem Properties.fresh_append (name value : Bytes) (id : Nat) :
    ∀ field ∈ header.ring ++ [⟨header.nextAddr, name, value, id⟩],
      field.addr < header.nextAddr + 1 := by
  intro f hf
  rcases List.mem_append.mp hf with hf | hf
  · have hfresh := h.fresh f hf
    omega
  · obtain rfl := List.mem_singleton.mp hf
    exact Nat.lt_succ_self _

/-- A field whose id is not set is added. -/
theorem Properties.add (hunset : header.arr.getD field.id none = none)
    (hnone : field.id < known → fieldsWith header.ring field.id = []) :
    Properties known (sectionAdd header field.name field.value field.id) (seen ++ [field]) := by
  rw [sectionAdd_absent hunset]
  refine ⟨(List.length_set).trans h.length, h.fresh_append _ _ _, h.nodup_append _ _ _,
    fun id hlt => ?_, ?_⟩
  · rw [fieldsWith_append, lastValue_append]
    by_cases heq : field.id = id
    · subst heq
      right
      refine ⟨_, by rw [if_pos rfl, hnone hlt]; rfl, ?_, by rw [if_pos rfl]⟩
      simp [List.getElem?_set_self (h.length ▸ hlt)]
    · rw [if_neg heq, if_neg heq, List.getD_eq_getElem?_getD, List.getElem?_set_ne heq]
      exact h.stored id hlt
  · simp only [List.filter_append, List.map_append, h.unknown, List.filter_cons]
    split <;> rfl

theorem Properties.setField (field : HeaderField) :
    Properties known (setField header field) (seen ++ [field]) := by
  unfold Mrcp.setField
  by_cases hknown : field.id < known
  · rcases h.stored field.id hknown with ⟨-, hunset, hnone⟩ | ⟨present, hpresent, hset, -⟩
    · rw [fieldGet_unset hunset]
      exact h.add hunset (fun _ => hnone)
    · rw [h.get hpresent hset]
      exact h.replace hknown hpresent hset
  · have hunknown : header.arr.length ≤ field.id := by rw [h.length]; exact Nat.le_of_not_lt hknown
    have hunset := getD_unknown hunknown
    rw [fieldGet_unset hunset]
    exact h.add hunset (fun hlt => absurd hlt hknown)

end

theorem Properties.foldl (fields : List HeaderField) (h : Properties known header seen) :
    Properties known (fields.foldl Mrcp.setField header) (seen ++ fields) := by
  induction fields generalizing header seen with
  | nil =>
    rw [List.append_nil]
    exact h
  | cons field fields ih =>
    rw [List.foldl_cons, show seen ++ field :: fields = seen ++ [field] ++ fields by simp]
    exact ih (h.setField field)

end

/-! ## The headers -/

theorem headerSection_valueDuplicate (header src : MessageHeader) (id : Nat) (value : Bytes) :
    (mrcpHeaderAccessorValueDuplicate header src id value).headerSection =
      header.headerSection := by
  unfold mrcpHeaderAccessorValueDuplicate
  repeat' split
  all_goals rfl

theorem headerSection_set (header src : MessageHeader) :
    (mrcpHeaderFieldsSet header src).headerSection =
      src.headerSection.ring.foldl setField header.headerSection := by
  refine (List.foldl_hom MessageHeader.headerSection (fun header field => ?_)).symm
  rw [headerSection_valueDuplicate]
  unfold setField
  cases aptHeaderSectionFieldGet header.headerSection field.id <;> rfl

theorem headerSection_inherit (header src : MessageHeader) :
    (mrcpHeaderFieldsInherit header src).headerSection =
      src.headerSection.ring.foldl (addAbsent fieldPair) header.headerSection := by
  refine (List.foldl_hom MessageHeader.headerSection (fun header field => ?_)).symm
  unfold addAbsent
  cases aptHeaderSectionFieldGet header.headerSection field.id with
  | some present => rfl
  | none =>
    rw [headerSection_headerFieldAdd, headerSection_valueDuplicate]
    rfl

/-- The name and value with which `mrcp_header_fields_get` answers a field. -/
def answerText (src : HeaderSection) (field : HeaderField) : Bytes × Bytes :=
  fieldPair ((aptHeaderSectionFieldGet src field.id).getD field)

theorem headerSection_get {header src mask : MessageHeader}
    (hid : ∀ field srcField, aptHeaderSectionFieldGet src.headerSection field = some srcField →
      srcField.id = field) :
    (mrcpHeaderFieldsGet header src mask).headerSection =
      mask.headerSection.ring.foldl (addAbsent (answerText src.headerSection))
        header.headerSection := by
  refine (List.foldl_hom MessageHeader.headerSection (fun header field => ?_)).symm
  unfold addAbsent answerText
  cases aptHeaderSectionFieldGet header.headerSection field.id with
  | some present => rfl
  | none =>
    cases hget : aptHeaderSectionFieldGet src.headerSection field.id with
    | some srcField =>
      rw [headerSection_headerFieldAdd, headerSection_valueDuplicate, hid _ _ hget]
      rfl
    | none => rfl

/-! ## The parameters -/

section

variable (resource : MrcpResource) (version : MrcpVersion)

/-- The properties of a channel behind SET-PARAMS requests. -/
def propertiesAfter (sources : List MessageHeader) : MessageHeader :=
  sources.foldl mrcpHeaderFieldsSet (mrcpMessageHeaderCreate resource version)

/-- The fields that were set, in order. -/
def setFields (sources : List MessageHeader) : List HeaderField :=
  sources.flatMap (fun source => source.headerSection.ring)

/-- The answer to GET-PARAMS has one field for each known id of the mask, with
the value last set, or with the name only if there is none. -/
def GetServed (sources : List MessageHeader) (mask : MessageHeader) : Prop :=
  ∀ id < knownCount resource version,
    ((∀ asked ∈ mask.headerSection.ring, asked.id ≠ id) →
      fieldsWith (mrcpHeaderFieldsGet (mrcpMessageHeaderCreate resource version)
        (propertiesAfter resource version sources) mask).headerSection.ring id = []) ∧
    ∀ asked, mask.headerSection.ring.find? (fun field => field.id == id) = some asked →
      ∃ field, fieldsWith (mrcpHeaderFieldsGet (mrcpMessageHeaderCreate resource version)
          (propertiesAfter resource version sources) mask).headerSection.ring id = [field] ∧
        match lastValue (setFields sources) id with
        | some value => field.value = value
        | none => field.name = asked.name ∧ field.value = []

/-- A request keeps its fields; each property it lacks is added once, with the
value last set, and so are the properties without id. -/
def InheritServed (sources : List MessageHeader) : Prop :=
  ∀ request : MessageHeader, Indexed request.headerSection →
    request.headerSection.arr.length = knownCount resource version →
    ∃ added, (mrcpHeaderFieldsInherit request
        (propertiesAfter resource version sources)).headerSection.ring =
        request.headerSection.ring ++ added ∧
      (∀ id < knownCount resource version,
        ((∃ field ∈ request.headerSection.ring, field.id = id) → fieldsWith added id = []) ∧
        ((∀ field ∈ request.headerSection.ring, field.id ≠ id) →
          match lastValue (setFields sources) id with
          | some value => ∃ field, fieldsWith added id = [field] ∧ field.value = value
          | none => fieldsWith added id = [])) ∧
      (added.filter (fun field => knownCount resource version ≤ field.id)).map fieldPair =
        ((setFields sources).filter
          (fun field => knownCount resource version ≤ field.id)).map fieldPair

/-- A field of the mask that was never set comes without a value. -/
def MaskBare (sources : List MessageHeader) (mask : MessageHeader) : Prop :=
  ∀ id < knownCount resource version, ∀ asked,
    mask.headerSection.ring.find? (fun field => field.id == id) = some asked →
    lastValue (setFields sources) id = none → asked.value = []

variable {resource version}

theorem headerSection_create : (mrcpMessageHeaderCreate resource version).headerSection =
    ⟨[], List.replicate (knownCount resource version) none, 0⟩ :=
  headerSection_dataAlloc mrcpMessageHeaderInit resource version

theorem indexed_create (resource : MrcpResource) (version : MrcpVersion) :
    Indexed (mrcpMessageHeaderCreate resource version).headerSection := by
  rw [headerSection_create]
  intro id _
  exact .inr ⟨getD_replicate_none _ id, fun _ h => (nomatch h)⟩

theorem headerSection_foldl (sources : List MessageHeader) (header : MessageHeader) :
    (sources.foldl mrcpHeaderFieldsSet header).headerSection =
      (setFields sources).foldl setField header.headerSection := by
  rw [setFields, List.foldl_flatMap]
  exact (List.foldl_hom MessageHeader.headerSection fun _ src =>
    (headerSection_set _ src).symm).symm

theorem properties_after (resource : MrcpResource) (version : MrcpVersion)
    (sources : List MessageHeader) :
    Properties (knownCount resource version)
      (propertiesAfter resource version sources).headerSection (setFields sources) := by
  have hnew : Properties (knownCount resource version)
      (mrcpMessageHeaderCreate resource version).headerSection [] := by
    rw [headerSection_create]
    refine ⟨List.length_replicate, fun _ h => (nomatch h), List.nodup_nil, fun id _ => ?_, rfl⟩
    exact .inl ⟨rfl, getD_replicate_none _ id, rfl⟩
  rw [propertiesAfter, headerSection_foldl]
  exact hnew.foldl (setFields sources)

/-- The field that the properties have for a known id. -/
theorem properties_get (h : Properties known header seen)
    (hget : aptHeaderSectionFieldGet header id = some field) : field.id = id := by
  by_cases hid : id < known
  · rcases h.stored id hid with ⟨-, hunset, -⟩ | ⟨stored, hstored, hset, -⟩
    · rw [fieldGet_unset hunset] at hget
      exact nomatch hget
    · rw [h.get hstored hset] at hget
      cases hget
      exact (mem_of_fieldsWith hstored).2
  · rw [fieldGet_unset (getD_unknown (by rw [h.length]; omega))] at hget
    exact nomatch hget

/-- The fields of an id in the answer to GET-PARAMS. -/
theorem get_fieldsWith (sources : List MessageHeader) (mask : MessageHeader)
    (hid : id < knownCount resource version) :
    (fieldsWith (mrcpHeaderFieldsGet (mrcpMessageHeaderCreate resource version)
      (propertiesAfter resource version sources) mask).headerSection.ring id).map fieldPair =
      ((mask.headerSection.ring.find? (fun field => field.id == id)).map
        (answerText (propertiesAfter resource version sources).headerSection)).toList := by
  have hprops := properties_after resource version sources
  rw [headerSection_get (fun _ _ hget => properties_get hprops hget)]
  obtain ⟨added, hring, hadds⟩ := foldl_addAbsent
    (answerText (propertiesAfter resource version sources).headerSection)
    mask.headerSection.ring (indexed_create resource version)
  rw [hring]
  rw [headerSection_create] at hadds ⊢
  rw [List.length_replicate] at hadds
  exact hadds.absent id hid (fun _ h => (nomatch h))

/-- Inheriting adds what is absent. -/
theorem inherit_served (sources : List MessageHeader) :
    InheritServed resource version sources := by
  intro request hindexed hlength
  have hprops := properties_after resource version sources
  rw [headerSection_inherit]
  obtain ⟨added, hring, hadds⟩ := foldl_addAbsent fieldPair
    (propertiesAfter resource version sources).headerSection.ring hindexed
  rw [hlength] at hadds
  refine ⟨added, hring, fun id hid => ⟨hadds.present id hid, fun habsent => ?_⟩,
    hadds.unknown.trans hprops.unknown⟩
  have hadded := hadds.absent id hid habsent
  rw [← List.head?_filter] at hadded
  change _ = (Option.map fieldPair (fieldsWith _ id).head?).toList at hadded
  rcases hprops.stored id hid with ⟨hlast, -, hnone⟩ | ⟨stored, hstored, -, hlast⟩
  · rw [hlast]
    rw [hnone] at hadded
    exact List.map_eq_nil_iff.mp hadded
  · rw [hlast]
    rw [hstored] at hadded
    obtain ⟨field, hfield, hpair⟩ := List.map_eq_singleton_iff.mp hadded
    exact ⟨field, hfield, congrArg Prod.snd hpair⟩

/-- The text with which GET-PARAMS answers a field. -/
theorem answerText_eq (resource : MrcpResource) (version : MrcpVersion)
    (sources : List MessageHeader) {asked : HeaderField}
    (hid : asked.id < knownCount resource version) :
    match lastValue (setFields sources) asked.id with
    | some value =>
      (answerText (propertiesAfter resource version sources).headerSection asked).2 = value
    | none => answerText (propertiesAfter resource version sources).headerSection asked =
        fieldPair asked := by
  have hprops := properties_after resource version sources
  unfold answerText
  rcases hprops.stored asked.id hid with ⟨hlast, hunset, -⟩ | ⟨stored, hstored, hset, hlast⟩
  · rw [hlast, fieldGet_unset hunset]
    rfl
  · rw [hlast, hprops.get hstored hset]
    rfl

/-- The parameters are served exactly if the mask brings no value for a field
that was never set. -/
theorem params_served_iff (resource : MrcpResource) (version : MrcpVersion)
    (sources : List MessageHeader) (mask : MessageHeader) :
    GetServed resource version sources mask ∧ InheritServed resource version sources ↔
      MaskBare resource version sources mask := by
  have hanswer : ∀ id < knownCount resource version, ∀ asked,
      mask.headerSection.ring.find? (fun field => field.id == id) = some asked →
      asked.id = id ∧ ∃ field,
        fieldsWith (mrcpHeaderFieldsGet (mrcpMessageHeaderCreate resource version)
          (propertiesAfter resource version sources) mask).headerSection.ring id = [field] ∧
        fieldPair field =
          answerText (propertiesAfter resource version sources).headerSection asked := by
    intro id hid asked hasked
    have hwith := get_fieldsWith sources mask hid
    rw [hasked] at hwith
    obtain ⟨field, hfield, hpair⟩ := List.map_eq_singleton_iff.mp hwith
    exact ⟨by simpa using List.find?_some hasked, field, hfield, hpair⟩
  constructor
  · rintro ⟨hget, -⟩ id hid asked hasked hnever
    obtain ⟨rfl, field, hfield, hpair⟩ := hanswer id hid asked hasked
    obtain ⟨field', hfield', hserved⟩ := (hget asked.id hid).2 asked hasked
    obtain rfl : field = field' := List.singleton_inj.mp (hfield.symm.trans hfield')
    have htext := answerText_eq resource version sources hid
    rw [hnever] at hserved htext
    rw [htext] at hpair
    have hvalue : field.value = asked.value := congrArg Prod.snd hpair
    rw [← hvalue]
    exact hserved.2
  · intro hbare
    refine ⟨fun id hid => ⟨fun hnone => ?_, fun asked hasked => ?_⟩, inherit_served sources⟩
    · have hwith := get_fieldsWith sources mask hid
      have hfind : mask.headerSection.ring.find? (fun field => field.id == id) = none :=
        List.find?_eq_none.mpr (fun field hfield => by simpa using hnone field hfield)
      rw [hfind] at hwith
      exact List.map_eq_nil_iff.mp hwith
    · obtain ⟨rfl, field, hfield, hpair⟩ := hanswer id hid asked hasked
      refine ⟨field, hfield, ?_⟩
      have htext := answerText_eq resource version sources hid
      cases hlast : lastValue (setFields sources) asked.id with
      | some value =>
        rw [hlast] at htext
        exact (congrArg Prod.snd hpair).trans htext
      | none =>
        rw [hlast] at htext
        have hsame := hpair.trans htext
        refine ⟨congrArg Prod.fst hsame, (congrArg Prod.snd hsame).trans ?_⟩
        exact hbare asked.id hid asked hasked hlast

end

/-- The header of a GET-PARAMS request that asks for the charset with a value. -/
def valuedMask : MessageHeader :=
  mrcpHeaderFieldsParse { mrcpMessageHeaderCreate .synthesizer .v2 with
    headerSection :=
      { (mrcpMessageHeaderCreate .synthesizer .v2).headerSection with
        ring := [⟨0, bytesOf "Accept-Charset", bytesOf "utf-8", unknownHeaderFieldId⟩]
        nextAddr := 1 } }

/-- Nothing was set, and the answer returns the value of the request. -/
theorem get_returns_asked_value :
    ¬ (GetServed .synthesizer .v2 [] valuedMask ∧ InheritServed .synthesizer .v2 []) := by
  rintro ⟨hget, -⟩
  have hasked : valuedMask.headerSection.ring.find? (fun field => field.id == 2) =
      some ⟨0, bytesOf "Accept-Charset", bytesOf "utf-8", 2⟩ := by decide +kernel
  obtain ⟨field, hfield, -, hvalue⟩ := (hget 2 (by decide)).2 _ hasked
  have hanswer : (fieldsWith (mrcpHeaderFieldsGet (mrcpMessageHeaderCreate .synthesizer .v2)
      (propertiesAfter .synthesizer .v2 []) valuedMask).headerSection.ring 2).map
      (fun field => field.value) = [bytesOf "utf-8"] := by decide +kernel
  rw [hfield, List.map_singleton, hvalue] at hanswer
  exact absurd hanswer (by decide)

/-! ## Received headers -/

/-- A parsed field is set in the array unless there is one with its id. -/
theorem indexed_fieldSet {done : List HeaderField} (h : Indexed { header with ring := done })
    (field : HeaderField) :
    Indexed { (aptHeaderSectionFieldSet header field).2 with ring := done ++ [field] } ∧
      (aptHeaderSectionFieldSet header field).2.arr.length = header.arr.length := by
  unfold aptHeaderSectionFieldSet
  split
  · rename_i hunknown
    exact ⟨h.append _ (.inl hunknown), rfl⟩
  · rename_i hknown
    have hlt : field.id < header.arr.length := Nat.lt_of_not_le hknown
    unfold HeaderSection.isSet
    rcases h field.id hlt with ⟨found, hmem, hfound, hset⟩ | ⟨hunset, -⟩
    · rw [if_pos (hset ▸ rfl)]
      exact ⟨h.append _ (.inr ⟨found, hmem, hfound⟩), rfl⟩
    · rw [if_neg (by simp only [hunset]; exact nofun)]
      exact ⟨h.appendSet _ _, List.length_set⟩

/-- `mrcp_header_fields_parse` indexes the fields behind those of `done`. -/
theorem indexed_headerFieldsLoop (fields done : List HeaderField) (header : HeaderSection)
    (data : HeaderData) (hunknown : ∀ field ∈ fields, header.arr.length ≤ field.id)
    (h : Indexed { header with ring := done }) :
    Indexed { (headerFieldsLoop fields header data).2.1 with
      ring := done ++ (headerFieldsLoop fields header data).1 } := by
  induction fields generalizing done header data with
  | nil =>
    rw [show done ++ (headerFieldsLoop [] header data).1 = done from List.append_nil _]
    exact h
  | cons field fields ih =>
    have hrest : ∀ f ∈ fields, header.arr.length ≤ f.id :=
      fun f hf => hunknown f (List.mem_cons_of_mem _ hf)
    cases hparse : fieldValueParse data field with
    | none =>
      simp only [headerFieldsLoop, hparse]
      have hnext : Indexed { header with ring := done ++ [field] } :=
        h.append _ (.inl (hunknown field List.mem_cons_self))
      simpa using ih _ header data hrest hnext
    | some parsed =>
      obtain ⟨id, data'⟩ := parsed
      simp only [headerFieldsLoop, hparse]
      obtain ⟨hnext, hlength⟩ := indexed_fieldSet h { field with id := id }
      simpa using ih _ _ data' (by rw [hlength]; exact hrest) hnext

/-- A received header is indexed: its fields have no id before they are parsed. -/
theorem indexed_parse (resource : MrcpResource) (version : MrcpVersion) (ring : List HeaderField)
    (nextAddr : Nat) (hunknown : ∀ field ∈ ring, field.id = unknownHeaderFieldId) :
    Indexed (mrcpHeaderFieldsParse (mrcpMessageHeaderDataAlloc ⟨⟨ring, [], nextAddr⟩, none⟩
      resource version)).headerSection := by
  have hloop := indexed_headerFieldsLoop ring []
    ⟨ring, List.replicate (knownCount resource version) none, nextAddr⟩
    ⟨resource, version, mrcpGenericHeaderInit, completionCauseCount resource, false⟩
    (fun field hfield => by
      rw [hunknown field hfield, List.length_replicate]
      exact knownCount_le resource version)
    (fun id _ => .inr ⟨getD_replicate_none _ id, fun _ h => (nomatch h)⟩)
  simp only [mrcpHeaderFieldsParse, headerSection_dataAlloc]
  exact hloop

theorem indexed_parse_charset : Indexed (mrcpHeaderFieldsParse (mrcpMessageHeaderDataAlloc
    ⟨⟨[⟨0, bytesOf "Accept-Charset", bytesOf "utf-8", unknownHeaderFieldId⟩], [], 1⟩, none⟩
    .synthesizer .v2)).headerSection :=
  indexed_parse .synthesizer .v2 _ 1 (by decide)

end UniMrcp.Mrcp
