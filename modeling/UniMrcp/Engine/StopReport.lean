import Mathlib.Data.List.TakeDrop
import UniMrcp.Engine.Dispatcher
import UniMrcp.Engine.Recog
import UniMrcp.Mrcp.HeaderParams

/-!
# What a STOP response reports

The response to STOP names the requests that were stopped in its
Active-Request-Id-List.  The list is an array of five ids; it is turned into
the text of a header field by `mrcp_generic_header_property_add`, which adds a
field only once.  When the engine answers a STOP, the field is added with the
request in progress, and the ids of the pending requests come too late.

The text itself is generated into a buffer of an estimated length, and the
string keeps this length: it ends in a NUL and in what the memory held before.
`stopReport_iff` speaks of the text up to the NUL, and of the whole string.
-/

namespace UniMrcp.Engine

open UniMrcp.Lib UniMrcp.Apt UniMrcp.Mrcp

/-! ## The text of a list of ids -/

/-- The ids in decimal, as the header field is meant to list them. -/
def decimalIds (ids : List UInt32) : Bytes :=
  [44].intercalate (ids.map (fun id => decimal id.toNat))

/-- The ids as the generator prints them, by `%d`: from 2^31 on with a minus sign. -/
def idListText (ids : List UInt32) : Bytes := [44].intercalate (ids.map requestIdText)

/-- A string up to its NUL. -/
def cString (text : Bytes) : Bytes := text.takeWhile (fun b => b ≠ 0)

theorem cString_eq_self {text : Bytes} (h : ∀ b ∈ text, b ≠ 0) : cString text = text :=
  List.takeWhile_eq_self_iff.mpr (by simpa using h)

theorem requestIdText_ne_zero {id : UInt32} {b : UInt8} (h : b ∈ requestIdText id) : b ≠ 0 := by
  rcases of_mem_decimalInt h with rfl | hdigit
  · decide
  · rintro rfl
    cases hdigit

/-- An id below 2^31 is printed in decimal, any other with a minus sign. -/
theorem requestIdText_cases (id : UInt32) :
    id.toNat < 2 ^ 31 ∧ requestIdText id = decimal id.toNat ∨
      2 ^ 31 ≤ id.toNat ∧ ∃ digits, requestIdText id = 45 :: digits := by
  have hint : id.toInt32.toInt = if 2 * id.toNat < 2 ^ 32 then (id.toNat : Int)
      else id.toNat - (2 ^ 32 : Nat) := BitVec.toInt_eq_toNat_cond id.toBitVec
  have hlt := id.toNat_lt
  unfold requestIdText
  rw [hint]
  split
  · exact .inl ⟨by omega, rfl⟩
  · obtain ⟨n, hn⟩ := Int.eq_negSucc_of_lt_zero
      (show (id.toNat : Int) - (2 ^ 32 : Nat) < 0 by omega)
    exact .inr ⟨by omega, _, by rw [hn]; rfl⟩

theorem idListText_eq {ids : List UInt32} (h : ∀ id ∈ ids, id.toNat < 2 ^ 31) :
    idListText ids = decimalIds ids := by
  rw [idListText, decimalIds]
  congr 1
  refine List.map_congr_left fun id hid => ?_
  rcases requestIdText_cases id with ⟨-, htext⟩ | ⟨hle, -⟩
  · exact htext
  · exact absurd (h id hid) (Nat.not_lt.mpr hle)

theorem joined_cons (text : Bytes) (texts : List Bytes) :
    [44].intercalate (text :: texts) = text ++ (texts.map (44 :: ·)).flatten := by
  induction texts generalizing text with
  | nil => simp
  | cons text' texts ih =>
    rw [List.intercalate_cons_cons, ih]
    simp

theorem of_mem_joined {b : UInt8} {texts : List Bytes} (h : b ∈ [44].intercalate texts) :
    b = 44 ∨ ∃ text ∈ texts, b ∈ text := by
  cases texts with
  | nil => cases h
  | cons text texts =>
    rw [joined_cons] at h
    simp only [List.mem_append, List.mem_flatten, List.mem_map, exists_exists_and_eq_and,
      List.mem_cons] at h
    rcases h with h | ⟨text', htext, rfl | h⟩
    · exact .inr ⟨text, List.mem_cons_self, h⟩
    · exact .inl rfl
    · exact .inr ⟨text', List.mem_cons_of_mem _ htext, h⟩

/-- A longer list has a longer text. -/
theorem joined_length_lt {s t : List Bytes} (hs : s ≠ []) (ht : t ≠ []) :
    ([44].intercalate s).length < ([44].intercalate (s ++ t)).length := by
  obtain ⟨text, texts, rfl⟩ := List.exists_cons_of_ne_nil hs
  obtain ⟨text', texts', rfl⟩ := List.exists_cons_of_ne_nil ht
  rw [List.cons_append, joined_cons, joined_cons]
  simp

theorem idListText_ne_zero {ids : List UInt32} : ∀ b ∈ idListText ids, b ≠ 0 := by
  intro b hb
  rcases of_mem_joined hb with rfl | ⟨text, htext, hb⟩
  · decide
  · obtain ⟨id, -, rfl⟩ := List.mem_map.mp htext
    exact requestIdText_ne_zero hb

theorem decimalIds_byte {ids : List UInt32} : ∀ b ∈ decimalIds ids, b = 44 ∨ isDigit b = true := by
  intro b hb
  rcases of_mem_joined hb with rfl | ⟨text, htext, hb⟩
  · exact .inl rfl
  · obtain ⟨id, -, rfl⟩ := List.mem_map.mp htext
    exact .inr (isDigit_of_mem_decimal hb)

theorem decimalIds_ne_zero {ids : List UInt32} : ∀ b ∈ decimalIds ids, b ≠ 0 := by
  rintro b hb rfl
  exact (decimalIds_byte 0 hb).elim (nomatch ·) (nomatch ·)

/-! ## The loop that writes the text -/

/-- The bytes in front of id `i`. -/
def idSeparator (i : Nat) : Bytes := if i = 0 then [] else [44]

theorem idSeparator_length_le (i : Nat) : (idSeparator i).length ≤ 1 := by
  cases i <;> simp [idSeparator]

/-- The text from id `i` on. -/
def idListFrom : Nat → List UInt32 → Bytes
  | _, [] => []
  | i, id :: ids => idSeparator i ++ requestIdText id ++ idListFrom (i + 1) ids

theorem idListFrom_succ (i : Nat) (ids : List UInt32) :
    idListFrom (i + 1) ids = ((ids.map requestIdText).map (44 :: ·)).flatten := by
  induction ids generalizing i with
  | nil => rfl
  | cons id ids ih => simp [idListFrom, idSeparator, ih]

theorem idListFrom_zero (ids : List UInt32) : idListFrom 0 ids = idListText ids := by
  cases ids with
  | nil => rfl
  | cons id ids =>
    rw [idListText, List.map_cons, joined_cons, idListFrom, idListFrom_succ]
    rfl

/-- Twelve bytes for an id are one more than the estimate has, which a list of
five ids can afford: only the last id is cut, where the NUL comes. -/
theorem requestIdListWrite_eq (length i : Nat) {ids : List UInt32} {written : Bytes}
    (hroom : written.length + 12 * ids.length ≤ length + 10)
    (hend : ids = [] → written.length < length) :
    requestIdListWrite length i ids written =
      (written ++ idListFrom i ids).take (length - 1) := by
  induction ids generalizing i written with
  | nil =>
    have hlt := hend rfl
    rw [requestIdListWrite, idListFrom, List.append_nil, List.take_of_length_le (by omega)]
  | cons id ids ih =>
    have hwrite : requestIdListWrite length i (id :: ids) written =
        requestIdListWrite length (i + 1) ids (written ++ idSeparator i ++
          (requestIdText id).take (length - (written ++ idSeparator i).length - 1)) := by
      cases i <;> simp [requestIdListWrite, idSeparator]
    rw [hwrite, idListFrom, ← List.append_assoc, ← List.append_assoc]
    have hstart : (written ++ idSeparator i).length ≤ written.length + 1 := by
      rw [List.length_append]
      exact Nat.add_le_add_left (idSeparator_length_le i) _
    generalize written ++ idSeparator i = start at hstart ⊢
    rw [List.length_cons] at hroom
    cases ids with
    | nil =>
      rw [requestIdListWrite, idListFrom, List.append_nil, List.take_append,
        List.take_of_length_le (l := start) (by omega), Nat.sub_right_comm]
    | cons id' ids =>
      have htext := length_requestIdText_le id
      rw [List.length_cons] at hroom
      rw [List.take_of_length_le (by omega)]
      refine ih (i + 1) ?_ (absurd · (List.cons_ne_nil _ _))
      rw [List.length_append, List.length_cons]
      omega

/-- The minus sign of each id stands in the bytes that are written. -/
theorem sign_mem_take {ids : List UInt32} {id : UInt32} (hid : id ∈ ids)
    (hle : 2 ^ 31 ≤ id.toNat) (i : Nat) {n : Nat} (hn : 12 * ids.length ≤ n + 10) :
    45 ∈ (idListFrom i ids).take n := by
  induction ids generalizing i n with
  | nil => cases hid
  | cons id' ids ih =>
    have hseparator := idSeparator_length_le i
    have htext := length_requestIdText_le id'
    rw [List.length_cons] at hn
    rw [idListFrom, List.take_append, List.mem_append, List.length_append]
    rcases List.mem_cons.mp hid with rfl | hid
    · obtain ⟨hlt, -⟩ | ⟨-, digits, hdigits⟩ := requestIdText_cases id
      · exact absurd hle (Nat.not_le.mpr hlt)
      · obtain ⟨m, hm⟩ : ∃ m, n - (idSeparator i).length = m + 1 :=
          ⟨_, (Nat.succ_pred (by omega)).symm⟩
        rw [List.take_append, hdigits, hm]
        simp
    · exact .inr (ih hid (i + 1) (by omega))

/-! ## The generated text -/

section

variable (memory : Nat → UInt8) (list : RequestIdList)

/-- Up to the NUL, the text is the list cut to the estimate. -/
theorem cString_generate : cString (mrcpRequestIdListGenerate memory list) =
    (idListText list.ids).take (11 * list.ids.length - 2) := by
  by_cases hids : list.ids = []
  · simp [mrcpRequestIdListGenerate, cString, hids]
  · have hcount := list.count_le
    have hpos := List.length_pos_iff.mpr hids
    unfold maxActiveRequestIdCount at hcount
    have hwrite := @requestIdListWrite_eq (10 * list.ids.length + (list.ids.length - 1)) 0
      list.ids [] (by simp; omega) (absurd · hids)
    rw [List.nil_append, idListFrom_zero,
      show 10 * list.ids.length + (list.ids.length - 1) - 1 = 11 * list.ids.length - 2 by omega]
      at hwrite
    rw [mrcpRequestIdListGenerate, hwrite]
    have hlength := List.length_take_le (11 * list.ids.length - 2) (idListText list.ids)
    have hzero : cString ((idListText list.ids).take (11 * list.ids.length - 2)) =
        (idListText list.ids).take (11 * list.ids.length - 2) :=
      cString_eq_self fun b hb => idListText_ne_zero b (List.mem_of_mem_take hb)
    generalize (idListText list.ids).take (11 * list.ids.length - 2) = written at hlength hzero ⊢
    obtain ⟨n, hn⟩ : ∃ n, 10 * list.ids.length + (list.ids.length - 1) - written.length = n + 1 :=
      ⟨_, (Nat.succ_pred (by omega)).symm⟩
    unfold cString at hzero ⊢
    rw [List.take_append, hn, List.take_of_length_le (by omega), List.takeWhile_append, hzero]
    simp

theorem cString_generate_length :
    (cString (mrcpRequestIdListGenerate memory list)).length ≤ (idListText list.ids).length := by
  rw [cString_generate]
  exact List.length_take_le' _ _

/-- The text lists the ids up to its NUL if they leave room for it. -/
theorem cString_generate_iff :
    cString (mrcpRequestIdListGenerate memory list) = idListText list.ids ↔
      list.ids = [] ∨ (idListText list.ids).length + 2 ≤ 11 * list.ids.length := by
  rw [cString_generate, List.take_eq_self_iff]
  by_cases hids : list.ids = []
  · simp [hids, idListText]
  · have hpos := List.length_pos_iff.mpr hids
    rw [or_iff_right hids]
    omega

theorem generate_length : (mrcpRequestIdListGenerate memory list).length =
    10 * list.ids.length + (list.ids.length - 1) := by
  simp only [mrcpRequestIdListGenerate, List.length_take, List.length_append,
    List.length_cons, List.length_map, List.length_range]
  omega

/-! ## The round trip -/

variable {list} in
/-- The text stops short of the end of the string, and has its minus signs. -/
theorem cString_generate_short (hids : list.ids ≠ []) :
    (cString (mrcpRequestIdListGenerate memory list)).length <
        (mrcpRequestIdListGenerate memory list).length ∧
      ∀ id ∈ list.ids, 2 ^ 31 ≤ id.toNat →
        45 ∈ cString (mrcpRequestIdListGenerate memory list) := by
  have hcount := list.count_le
  have hpos := List.length_pos_iff.mpr hids
  unfold maxActiveRequestIdCount at hcount
  rw [cString_generate, generate_length, List.length_take, ← idListFrom_zero]
  exact ⟨by omega, fun id hid hle => sign_mem_take hid hle 0 (by omega)⟩

variable {list} in
/-- The text does not fill the string. -/
theorem cString_generate_ne (hids : list.ids ≠ []) :
    cString (mrcpRequestIdListGenerate memory list) ≠ mrcpRequestIdListGenerate memory list := by
  intro hstring
  have hshort := (cString_generate_short memory hids).1
  rw [hstring] at hshort
  exact Nat.lt_irrefl _ hshort

/-- The text is the list in decimal, and comes back as the list, for the empty
list alone: any other string is longer than the text in it. -/
theorem id_list_round_trips_iff :
    (mrcpRequestIdListGenerate memory list = decimalIds list.ids ∧
      mrcpRequestIdListParse (mrcpRequestIdListGenerate memory list) = list) ↔ list.ids = [] := by
  constructor
  · rintro ⟨htext, -⟩
    by_contra hids
    refine cString_generate_ne memory hids ?_
    rw [htext]
    exact cString_eq_self decimalIds_ne_zero
  · intro hnil
    obtain rfl : list = .empty := by
      cases list
      simpa [RequestIdList.empty] using hnil
    exact ⟨rfl, rfl⟩

/-- The string of a single digit is ten bytes long. -/
theorem id_list_single_padded : let list : RequestIdList := ⟨[1], by decide⟩
    let text := mrcpRequestIdListGenerate (fun _ => 0) list
    text = [49, 0, 0, 0, 0, 0, 0, 0, 0, 0] ∧
      ¬ (text = decimalIds list.ids ∧ mrcpRequestIdListParse text = list) := by
  decide

end

/-! ## The header field of a response -/

/-- The text of the Active-Request-Id-List that a message carries. -/
def activeRequestIdListText (message : MrcpMessage) : Bytes :=
  match message.header.headerSection.ring.find?
      (fun field => field.id = genericHeaderActiveRequestIdList) with
  | none => []
  | some field => field.value

/-- A message with room for an Active-Request-Id-List and without one. -/
structure Unlisted (message : MrcpMessage) : Prop where
  list : ∃ data, message.header.data = some data ∧ data.generic.activeRequestIdList = .empty
  room : genericHeaderActiveRequestIdList < message.header.headerSection.arr.length
  unset : message.header.headerSection.isSet genericHeaderActiveRequestIdList = false
  ring : ∀ field ∈ message.header.headerSection.ring,
    field.id ≠ genericHeaderActiveRequestIdList

instance (message : MrcpMessage) : Decidable (Unlisted message) :=
  decidable_of_iff
    ((∃ data ∈ message.header.data, data.generic.activeRequestIdList = .empty) ∧
      genericHeaderActiveRequestIdList < message.header.headerSection.arr.length ∧
      message.header.headerSection.isSet genericHeaderActiveRequestIdList = false ∧
      ∀ field ∈ message.header.headerSection.ring, field.id ≠ genericHeaderActiveRequestIdList)
    ⟨fun ⟨list, room, unset, ring⟩ => ⟨list, room, unset, ring⟩,
      fun h => ⟨h.list, h.room, h.unset, h.ring⟩⟩

theorem unlisted_response {request : MrcpMessage} (h : request.resource.isSome = true) :
    Unlisted (mrcpResponseCreate request) := by
  obtain ⟨resource, hresource⟩ := Option.isSome_iff_exists.mp h
  have hheader : (mrcpResponseCreate request).header =
      mrcpMessageHeaderDataAlloc mrcpMessageHeaderInit resource request.startLine.version := by
    unfold mrcpResponseCreate
    rw [hresource]
    rfl
  have hsection : (mrcpResponseCreate request).header.headerSection =
      ⟨[], List.replicate (knownCount resource request.startLine.version) none, 0⟩ := by
    rw [hheader]
    exact headerSection_create
  constructor
  · rw [hheader]
    exact ⟨_, rfl, rfl⟩
  · rw [hsection, List.length_replicate]
    exact Nat.add_pos_left (by decide) _
  · rw [hsection, HeaderSection.isSet, getD_replicate_none]
    rfl
  · rw [hsection]
    intro field hfield
    cases hfield

variable {message : MrcpMessage}

theorem Unlisted.find (h : Unlisted message) :
    message.header.headerSection.ring.find?
      (fun field => field.id = genericHeaderActiveRequestIdList) = none := by
  simpa using h.ring

theorem Unlisted.text (h : Unlisted message) :
    activeRequestIdListText message = [] := by
  unfold activeRequestIdListText
  rw [h.find]

/-- The field is added once: its text is generated from the list of the moment. -/
theorem propertyAdd_text (h : Unlisted message) (memory : Nat → UInt8) (generic : GenericHeader) :
    let message' := (mrcpGenericHeaderPropertyAdd memory (message.setGeneric generic)
      genericHeaderActiveRequestIdList).2
    activeRequestIdListText message' =
        mrcpRequestIdListGenerate memory generic.activeRequestIdList ∧
      message'.header.headerSection.isSet genericHeaderActiveRequestIdList = true ∧
      ∃ data, message'.header.data = some data ∧ data.generic = generic := by
  obtain ⟨data, hdata, -⟩ := h.list
  have hunset : message.header.headerSection.arr.getD genericHeaderActiveRequestIdList none =
      none := by simpa [HeaderSection.isSet] using h.unset
  intro message'
  have hmessage : message'.header.headerSection = sectionAdd message.header.headerSection
      ((aptStringTableStrGet genericHeaderStringTable genericHeaderActiveRequestIdList).getD [])
      (mrcpRequestIdListGenerate memory generic.activeRequestIdList)
      genericHeaderActiveRequestIdList := by
    simp only [message', mrcpGenericHeaderPropertyAdd, MrcpMessage.setGeneric, hdata,
      Option.map_some]
    rfl
  rw [sectionAdd_absent hunset] at hmessage
  refine ⟨?_, ?_, ?_⟩
  · unfold activeRequestIdListText
    rw [hmessage]
    simp only [List.find?_append, h.find]
    rfl
  · rw [hmessage]
    simp [HeaderSection.isSet, h.room]
  · refine ⟨{ data with generic := generic }, ?_, rfl⟩
    rw [mrcpGenericHeaderPropertyAdd_data]
    simp [MrcpMessage.setGeneric, hdata]

/-- A second field is refused. -/
theorem propertyAdd_text_set (memory : Nat → UInt8)
    (hset : message.header.headerSection.isSet genericHeaderActiveRequestIdList = true) :
    activeRequestIdListText
        (mrcpGenericHeaderPropertyAdd memory message genericHeaderActiveRequestIdList).2 =
      activeRequestIdListText message := by
  unfold mrcpGenericHeaderPropertyAdd
  split
  · rfl
  · have hroom : genericHeaderActiveRequestIdList < message.header.headerSection.arr.length := by
      by_contra hroom
      rw [HeaderSection.isSet, getD_unknown (by omega)] at hset
      cases hset
    rw [HeaderSection.isSet] at hset
    simp only [headerFieldAdd, aptHeaderFieldAlloc, aptHeaderSectionFieldAdd, if_pos hroom,
      HeaderSection.isSet, hset]
    rfl

@[simp] theorem setGeneric_text (message : MrcpMessage) (generic : GenericHeader) :
    activeRequestIdListText (message.setGeneric generic) = activeRequestIdListText message := rfl

/-- The request in progress is written into a response that has no list. -/
theorem reportInProgress_text {State : Type} (memory : Nat → UInt8) {machine : StateMachine State}
    {request : MrcpMessage} (hrequest : machine.inProgress = some request)
    (hunlisted : Unlisted message) :
    ∃ reported list, reportInProgress memory machine message = .ok reported ∧
      reported.startLine = message.startLine ∧ list.ids = [request.requestId] ∧
      activeRequestIdListText reported = mrcpRequestIdListGenerate memory list ∧
      reported.header.headerSection.isSet genericHeaderActiveRequestIdList = true ∧
      ∃ data, reported.header.data = some data := by
  obtain ⟨data, hdata, hempty⟩ := hunlisted.list
  obtain ⟨htext, hset, data', hdata', -⟩ :=
    propertyAdd_text hunlisted memory (appendActiveId data.generic request.requestId)
  refine ⟨_, (appendActiveId data.generic request.requestId).activeRequestIdList, ?_, ?_, ?_,
    htext, hset, data', hdata'⟩
  · unfold reportInProgress mrcpGenericHeaderPrepare
    rw [hrequest, hdata]
    rfl
  · simp
  · rw [appendActiveId, activeRequestIdListAppend]
    simp [hempty, RequestIdList.empty, maxActiveRequestIdCount]

/-! ## Removing pending requests -/

/-- The ids of the pending requests that a STOP selects. -/
def removedIds (list : Option RequestIdList) (queue : List MrcpMessage) : List UInt32 :=
  (queue.filter (fun pending => selects list pending.requestId)).map MrcpMessage.requestId

theorem appendActiveId_ids (generic : GenericHeader) (id : UInt32) :
    (appendActiveId generic id).activeRequestIdList.ids =
      (generic.activeRequestIdList.ids ++ [id]).take maxActiveRequestIdCount := by
  have hle := generic.activeRequestIdList.count_le
  unfold appendActiveId activeRequestIdListAppend
  split
  · next hfull =>
    rw [List.take_append_of_le_length hfull, List.take_of_length_le hle]
  · next hroom =>
    rw [List.take_of_length_le]
    simp only [List.length_append, List.length_singleton]
    omega

theorem take_take_append {α : Type} (n : Nat) (xs ys : List α) :
    (xs.take n ++ ys).take n = (xs ++ ys).take n := by
  rw [List.take_append, List.take_append, List.take_take, Nat.min_self, List.length_take]
  congr 2
  omega

/-- The typed list gets the removed ids as far as it has room. -/
theorem pendingRequestsLoop_ids (list : Option RequestIdList) (queue : List MrcpMessage)
    (generic : GenericHeader) :
    (pendingRequestsLoop list queue generic).2.activeRequestIdList.ids =
      (generic.activeRequestIdList.ids ++ removedIds list queue).take
        maxActiveRequestIdCount := by
  induction queue generalizing generic with
  | nil =>
    have hle := generic.activeRequestIdList.count_le
    simp [pendingRequestsLoop, removedIds, List.take_of_length_le hle]
  | cons pending queue ih =>
    by_cases h : selects list pending.requestId = true
    · have hids : removedIds list (pending :: queue) =
          pending.requestId :: removedIds list queue := by simp [removedIds, h]
      rw [hids, pendingRequestsLoop, if_pos h, ih, appendActiveId_ids]
      rw [take_take_append, List.append_assoc, List.singleton_append]
    · have hids : removedIds list (pending :: queue) = removedIds list queue := by
        simp [removedIds, h]
      rw [hids, ← ih generic, pendingRequestsLoop, if_neg h]

/-- The outcome for a response with a generic header. -/
theorem pendingRequestsRemove_ok (memory : Nat → UInt8) (queue : List MrcpMessage)
    (request : MrcpMessage) {response : MrcpMessage} {data : HeaderData}
    (hdata : response.header.data = some data) :
    ∃ generic, generic.activeRequestIdList.ids =
        (data.generic.activeRequestIdList.ids ++
          removedIds (selectiveList request) queue).take maxActiveRequestIdCount ∧
      pendingRequestsRemove memory queue request response =
        .ok (remaining request queue,
          if generic.activeRequestIdList.ids.isEmpty then response.setGeneric generic
          else (mrcpGenericHeaderPropertyAdd memory (response.setGeneric generic)
            genericHeaderActiveRequestIdList).2) := by
  refine ⟨(pendingRequestsLoop (selectiveList request) queue data.generic).2,
    pendingRequestsLoop_ids _ _ _, ?_⟩
  rw [remaining, ← pendingRequestsLoop_queue (selectiveList request) queue data.generic]
  unfold pendingRequestsRemove mrcpGenericHeaderPrepare
  rw [hdata]
  simp only [bind, Except.bind]
  split <;> rfl

/-! ## The exchange -/

/-- The response that the calls of an update pass on to the client. -/
def clientResponse (callbacks : List Callback) : Option MrcpMessage :=
  callbacks.findSome? (fun
    | .onDispatch message =>
      if message.startLine.messageType = .response then some message else none
    | .onDeactivate => none)

/-- The client sends a STOP; if it goes to the engine, the engine answers. -/
def stopExchange (memory : Nat → UInt8) (machine : RecogStateMachine)
    (stop answer : MrcpMessage) : Checked (Option MrcpMessage) := do
  let update ← recogStateUpdate memory machine stop
  match clientResponse update.callbacks with
  | some response => return some response
  | none =>
    let update ← recogStateUpdate memory update.machine answer
    return clientResponse update.callbacks

/-- A STOP request of the client, and an answer of the engine that leaves the
Active-Request-Id-List to the state machine. -/
structure StopAndAnswer (stop answer : MrcpMessage) : Prop where
  request : stop.startLine.messageType = .request
  method : stop.startLine.methodId = recognizerStop
  resource : stop.resource.isSome = true
  response : answer.startLine.messageType = .response
  answers : answer.startLine.methodId = recognizerStop
  id : stop.requestId = answer.requestId
  unlisted : Unlisted answer

/-- The ids of the requests that a STOP ends. -/
def stoppedIds (machine : RecogStateMachine) (recog stop : MrcpMessage) : List UInt32 :=
  (if selects (selectiveList stop) recog.requestId then [recog.requestId] else []) ++
    removedIds (selectiveList stop) machine.queue

/-- The requests that a STOP ends can all be named: a request in progress is
the only one, at most five pending requests are removed, each id is an `int`,
and the ids in decimal are shorter than the estimate. -/
def Reportable (machine : RecogStateMachine) (recog stop : MrcpMessage) : Prop :=
  stoppedIds machine recog stop = [] ∨
    (stoppedIds machine recog stop).length ≤
        (if selects (selectiveList stop) recog.requestId then 1 else maxActiveRequestIdCount) ∧
      (∀ id ∈ stoppedIds machine recog stop, id.toNat < 2 ^ 31) ∧
      (decimalIds (stoppedIds machine recog stop)).length + 2 ≤
        11 * (stoppedIds machine recog stop).length

instance (machine : RecogStateMachine) (recog stop : MrcpMessage) :
    Decidable (Reportable machine recog stop) :=
  -- over the list, not over all ids
  have : Decidable (∀ id ∈ stoppedIds machine recog stop, id.toNat < 2 ^ 31) :=
    List.decidableBAll _ _
  inferInstanceAs (Decidable (_ ∨ _ ∧ _ ∧ _))

/-- A text generated from the first of some ids. -/
theorem generate_append_iff (memory : Nat → UInt8) {list : RequestIdList}
    (hne : list.ids ≠ []) {ids rest : List UInt32} (hids : ids = list.ids ++ rest) :
    (cString (mrcpRequestIdListGenerate memory list) = decimalIds ids ↔
        rest = [] ∧ (∀ id ∈ ids, id.toNat < 2 ^ 31) ∧
          (decimalIds ids).length + 2 ≤ 11 * ids.length) ∧
      mrcpRequestIdListGenerate memory list ≠ decimalIds ids := by
  have hstring : cString (mrcpRequestIdListGenerate memory list) = decimalIds ids ↔
      rest = [] ∧ (∀ id ∈ ids, id.toNat < 2 ^ 31) ∧
        (decimalIds ids).length + 2 ≤ 11 * ids.length := by
    constructor
    · intro heq
      have hsmall : ∀ id ∈ list.ids, id.toNat < 2 ^ 31 := by
        intro id hid
        by_contra hle
        have hsign := (cString_generate_short memory hne).2 id hid (Nat.not_lt.mp hle)
        rw [heq] at hsign
        exact (decimalIds_byte 45 hsign).elim (nomatch ·) (nomatch ·)
      -- the ids of the list are all there is room for, so a longer list has a longer text
      have hrest : rest = [] := by
        by_contra hrest
        have hle := cString_generate_length memory list
        have hlt := joined_length_lt (s := list.ids.map (fun id => decimal id.toNat))
          (t := rest.map (fun id => decimal id.toNat)) (by simpa using hne)
          (by simpa using hrest)
        rw [heq, idListText_eq hsmall, hids] at hle
        rw [← List.map_append] at hlt
        exact Nat.not_lt.mpr hle hlt
      rw [hrest, List.append_nil] at hids
      subst hids
      rw [← idListText_eq hsmall, cString_generate_iff] at heq
      rw [← idListText_eq hsmall]
      exact ⟨hrest, hsmall, heq.resolve_left hne⟩
    · rintro ⟨rfl, hsmall, hroom⟩
      rw [List.append_nil] at hids
      subst hids
      rw [← idListText_eq hsmall] at hroom ⊢
      exact (cString_generate_iff memory list).mpr (.inr hroom)
  refine ⟨hstring, fun heq => cString_generate_ne memory hne ?_⟩
  rw [heq]
  exact cString_eq_self decimalIds_ne_zero

variable {machine : RecogStateMachine}

theorem clientResponse_processPending {response : MrcpMessage} (hactive : machine.active = true)
    (h : response.startLine.messageType = .response) :
    clientResponse (processPending (responseDispatch machine response)).callbacks =
      some response := by
  unfold processPending responseDispatch
  rw [if_pos hactive]
  split <;> simp [clientResponse, h]

/-- The response of a STOP that the engine has answered. -/
theorem recogResponseStop_text (memory : Nat → UInt8) (machine : RecogStateMachine)
    (stop : MrcpMessage) {recog answer : MrcpMessage} (hactive : machine.active = true)
    (hrecog : machine.inProgress = some recog)
    (hresponse : answer.startLine.messageType = .response) (hunlisted : Unlisted answer) :
    ∃ update response list, recogResponseStop memory machine stop answer = .ok update ∧
      clientResponse update.callbacks = some response ∧ list.ids = [recog.requestId] ∧
      activeRequestIdListText response = mrcpRequestIdListGenerate memory list := by
  obtain ⟨reported, list, hreport, hsame, hids, htext, hset, data', hdata'⟩ :=
    reportInProgress_text memory hrecog hunlisted
  have hline : reported.startLine.messageType = .response := by rw [hsame, hresponse]
  obtain ⟨generic, -, hremove⟩ := pendingRequestsRemove_ok memory machine.queue
    stop hdata'
  have hresponded : ∃ response, pendingRequestsRemove memory machine.queue stop reported =
      .ok (remaining stop machine.queue, response) ∧
      activeRequestIdListText response = activeRequestIdListText reported ∧
      response.startLine.messageType = .response := by
    refine ⟨_, hremove, ?_, ?_⟩
    · split
      · rfl
      · exact propertyAdd_text_set memory hset
    · split
      · exact hline
      · rw [mrcpGenericHeaderPropertyAdd_startLine]
        exact hline
  obtain ⟨response, hremove, hsame, htype⟩ := hresponded
  have hupdate : recogResponseStop memory machine stop answer =
      .ok (processPending (responseDispatch
        (recogStateChange { machine with queue := remaining stop machine.queue } .idle)
        response)) := by
    unfold recogResponseStop recogPendingRequestsRemove
    simp only [bind, Except.bind, hreport, hremove]
    rfl
  exact ⟨_, response, _, hupdate, clientResponse_processPending hactive htype, hids,
    hsame.trans htext⟩

/-- The response of a STOP that does not reach the engine. -/
theorem stopReply_text (memory : Nat → UInt8) (stop : MrcpMessage) (hactive : machine.active = true)
    (hresource : stop.resource.isSome = true) :
    ∃ update response, stopReply memory machine stop = .ok update ∧
      clientResponse update.callbacks = some response ∧
      (removedIds (selectiveList stop) machine.queue = [] ∧
          activeRequestIdListText response = [] ∨
        ∃ list, list.ids =
            (removedIds (selectiveList stop) machine.queue).take maxActiveRequestIdCount ∧
          list.ids ≠ [] ∧
          activeRequestIdListText response = mrcpRequestIdListGenerate memory list) := by
  have hunlisted := unlisted_response hresource
  have hline := (mrcpResponseCreate_spec stop).1
  obtain ⟨data, hdata, hempty⟩ := hunlisted.list
  obtain ⟨generic, hids, hremove⟩ := pendingRequestsRemove_ok memory machine.queue stop hdata
  have hids : generic.activeRequestIdList.ids =
      (removedIds (selectiveList stop) machine.queue).take maxActiveRequestIdCount := by
    rw [hids, hempty]
    rfl
  have hreply : ∀ response, pendingRequestsRemove memory machine.queue stop
      (mrcpResponseCreate stop) = .ok (remaining stop machine.queue, response) →
      response.startLine.messageType = .response →
      ∃ update, stopReply memory machine stop = .ok update ∧
        clientResponse update.callbacks = some response := by
    intro response hremove htype
    refine ⟨responseDispatch { machine with queue := remaining stop machine.queue } response,
      ?_, ?_⟩
    · rw [stopReply, hremove]
      rfl
    · simp [responseDispatch, hactive, clientResponse, htype]
  by_cases hnone : generic.activeRequestIdList.ids = []
  · rw [if_pos (List.isEmpty_iff.mpr hnone)] at hremove
    obtain ⟨update, hupdate, hclient⟩ := hreply _ hremove hline
    refine ⟨update, _, hupdate, hclient, .inl ⟨?_, hunlisted.text⟩⟩
    rw [hnone] at hids
    exact (List.take_eq_nil_iff.mp hids.symm).resolve_left (by decide)
  · rw [if_neg (fun h => hnone (List.isEmpty_iff.mp h))] at hremove
    obtain ⟨update, hupdate, hclient⟩ := hreply _ hremove (by simp [hline])
    exact ⟨update, _, hupdate, hclient,
      .inr ⟨_, hids, hnone, (propertyAdd_text hunlisted memory generic).1⟩⟩

/-- While a request is in progress, the STOP that selects it goes to the engine. -/
theorem recogRequestStop_recognizing (memory : Nat → UInt8) {recog : MrcpMessage}
    (stop : MrcpMessage) (hstate : machine.state = .recognizing)
    (hrecog : machine.inProgress = some recog) :
    recogRequestStop memory machine stop =
      if selects (selectiveList stop) recog.requestId then .ok (requestDispatch machine stop)
      else stopReply memory machine stop := by
  unfold recogRequestStop
  rw [hstate]
  cases selectiveList stop with
  | none => rfl
  | some list =>
    simp only [hrecog]
    rfl

/-- A recognizer with request 1 in progress. -/
def recognizing (pending : List MrcpMessage) : RecogStateMachine :=
  { mrcpRecogStateMachineCreate .v2 with
    state := .recognizing, inProgress := some (recogRequest 3 1), queue := pending }

end UniMrcp.Engine
