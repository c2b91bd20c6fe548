import UniMrcp.Server.Requests
import UniMrcp.Lib.Runs

/-!
# The places of control media

A channel keeps the position of its control media in the offer as its id, and
every later loop takes the position of the channel in `channels` for it.  The
two differ once a media of an unknown resource, for which no channel is kept,
stands before one of a known resource.
-/

namespace UniMrcp.Server

open UniMrcp.Lib UniMrcp.Lib.Runs UniMrcp.Apt UniMrcp.Mrcp

/-- The control media that the channels are for. -/
def Session.seats (s : Session) : List Nat := s.channels.map Channel.id

/-- The channel at a position is that of the control media there. -/
def Seated (s : Session) : Prop := s.seats = List.range s.channels.length

section Offers

variable (profile : Profile) (s : Session) (offer : Offer)

/-- The offer has a control media `i`, and its resource is known. -/
def Usable (i : Nat) : Bool :=
  (offer.controlMediaGet i).any (fun media =>
    (mrcpResourceFind profile.resourceFactory media.resourceName).isSome)

/-- The control media that are new to the session. -/
def newMedia : List Nat :=
  List.range' s.channels.length (offer.controlMedia.length - s.channels.length)

/-- The new media of known resources come before the others. -/
def Unbroken : Prop := (newMedia s offer).filter (Usable profile offer) <+: newMedia s offer

theorem seats_modifyChannel (i : Nat) {f : Channel → Channel} (hf : ∀ c, (f c).id = c.id) :
    (s.modifyChannel i f).seats = s.seats :=
  map_modify_keep Channel.id hf s.channels i

theorem seats_await (r : Awaited) : (s.await r).seats = s.seats := by
  cases r with
  | channelModify i | channelRemove i | terminationAdd i | terminationSubtract i =>
    exact seats_modifyChannel s i (fun _ => rfl)
  | _ => rfl

theorem controlMediaModify_seats (i : Nat) : (controlMediaModify offer s i).seats = s.seats := by
  have hcleared := seats_modifyChannel s i
    (f := fun channel => { channel with waitingForChannel := false }) (fun _ => rfl)
  unfold controlMediaModify
  cases s.channels[i]? with
  | none => rfl
  | some channel =>
    cases offer.controlMediaGet i with
    | none => exact hcleared
    | some media =>
      dsimp only
      split
      · exact (seats_await _ _).trans hcleared
      · exact hcleared

theorem controlMediaAdd_seats (i : Nat) : (controlMediaAdd profile offer s i).seats =
    s.seats ++ [i].filter (Usable profile offer) := by
  unfold controlMediaAdd Usable
  cases hmedia : offer.controlMediaGet i with
  | none => simp [hmedia]
  | some media =>
    have hdisable : ∀ (s : Session) id, (controlMediaDisable s id).seats = s.seats :=
      fun _ _ => rfl
    cases hfind : mrcpResourceFind profile.resourceFactory media.resourceName with
    | none => simp [mrcpServerChannelCreate, hmedia, hfind, Session.modifyAnswer, Session.seats]
    | some resource =>
      simp only [mrcpServerChannelCreate, hfind]
      cases ((profile.engine resource).map Prod.snd).join <;>
        simp only [Option.isSome, if_true, Bool.false_eq_true, if_false, terminationAdd,
          apply_ite Session.seats, seats_await, hdisable] <;>
        simp [hmedia, hfind, Session.seats, Session.modifyAnswer]

/-- An offer adds a channel for each new media of a known resource. -/
theorem offer_seats : (mrcpServerControlMediaOfferProcess profile s offer).seats =
    s.seats ++ (newMedia s offer).filter (Usable profile offer) := by
  have hadd : ∀ (l : List Nat) (s : Session), (l.foldl (controlMediaAdd profile offer) s).seats =
      s.seats ++ l.filter (Usable profile offer) := by
    intro l
    induction l with
    | nil => simp
    | cons i l ih =>
      intro s
      rw [List.foldl_cons, ih, controlMediaAdd_seats, List.append_assoc, ← List.filter_append]
      rfl
  have hmodify := foldl_related (R := fun s s' : Session => s'.seats = s.seats) (fun _ => rfl)
    (fun h h' => h'.trans h) (controlMediaModify_seats · offer)
  have hnew : List.range' (min s.channels.length offer.controlMedia.length)
      (offer.controlMedia.length - min s.channels.length offer.controlMedia.length) =
      newMedia s offer := by
    unfold newMedia
    rcases Nat.le_total s.channels.length offer.controlMedia.length with hle | hle
    · rw [Nat.min_eq_left hle]
    · rw [Nat.min_eq_right hle, Nat.sub_self, Nat.sub_eq_zero_of_le hle]
      rfl
  unfold mrcpServerControlMediaOfferProcess forLoop
  rw [hadd, hmodify, hnew]

variable {s}

theorem offer_seated_iff (hs : Seated s) :
    Seated (mrcpServerControlMediaOfferProcess profile s offer) ↔ Unbroken profile s offer := by
  have hseats := offer_seats profile s offer
  have hlength := congrArg List.length hseats
  have hle := List.length_filter_le (Usable profile offer) (newMedia s offer)
  rw [List.length_append, Session.seats, Session.seats, List.length_map, List.length_map] at hlength
  rw [newMedia, List.length_range'] at hle
  rw [Seated, hseats, hs, hlength, List.range_eq_range', List.range_eq_range',
    ← List.range'_append_1, List.append_right_inj, Nat.zero_add, Unbroken,
    List.prefix_iff_eq_take, newMedia, List.take_range'_of_length_ge hle]

/-- The offers that come one after the other. -/
def offerStep (s : Session) (offer : Offer) : Option Session :=
  some (mrcpServerControlMediaOfferProcess profile s offer)

/-- Through every sequence of offers each channel stays at the place of its
media exactly if every offer is unbroken. -/
theorem seated_iff (offers : List Offer) (hs : Seated s) :
    Always (offerStep profile) Seated s offers ↔
      Along (offerStep profile) (Unbroken profile) s offers := by
  refine always_iff_along (fun _ hs => hs) (fun s offer s' hs _ hunbroken hs' => ?_)
    (fun s offer s' hs _ hseated hs' => ?_) offers s hs (Along.true offers s)
  · cases hs'
    exact (offer_seated_iff profile offer hs).mpr hunbroken
  · cases hs'
    exact (offer_seated_iff profile offer hs).mp hseated

end Offers

theorem seated_iff_create :
    Seated mrcpServerSessionCreate ∧
      (Always (offerStep recognizerProfile) Seated mrcpServerSessionCreate [recognizerOffer] ↔
        Along (offerStep recognizerProfile) (Unbroken recognizerProfile) mrcpServerSessionCreate
          [recognizerOffer]) :=
  ⟨rfl, seated_iff _ _ rfl⟩

/-- The first media is of an unknown resource: the channel of the second one is
at the place of the first. -/
theorem recognizer_unseated :
    let offer := { recognizerOffer with
      controlMedia := [some ⟨bytesOf "unknown", 1544, none⟩] ++ recognizerOffer.controlMedia }
    let s := mrcpServerControlMediaOfferProcess recognizerProfile mrcpServerSessionCreate offer
    s.seats = [1] ∧ ¬Seated s := by
  unfold Seated
  decide +kernel

end UniMrcp.Server
