import DivertNet.IPHeader

/-!
# What a read of `DestinationAddress` depends on

A packet's destination is a field of its own, so `DestinationAddress` should not depend on
the source. This is a statement about two runs: two header objects that go through the same
actions, over packets that differ in their source addresses only, should hand out the same
destination at every read.

The two runs are one run of a *twin* (`DivertNet.TwinState`), whose two halves each take a
step of `DivertNet.IPHeaderState.next`. Their destination cells stay equal as long as the
reads agree (`DivertNet.TwinInv`), and a read agrees exactly when there is nothing to
refresh or the range test, which looks at the source, comes out alike
(`DivertNet.destinationReads_iff`).
-/

namespace DivertNet

open LittleEndian Runs

/-! ### Two objects side by side -/

/-- What happens to two header objects at once. The packets, and where they are, may differ. -/
inductive TwinAction where
  | attach (value : Option (ℕ × ℕ))
  | poke (m m' : Mem)
  | getSource
  | getDestination
  | setDestination (value : IPAddress)

namespace TwinAction

/-- What happens to the first object. -/
def fst : TwinAction → AddressAction
  | attach value => .attach (value.map Prod.fst)
  | poke m _ => .poke m
  | getSource => .getSource
  | getDestination => .getDestination
  | setDestination value => .setDestination value

/-- What happens to the second object. -/
def snd : TwinAction → AddressAction
  | attach value => .attach (value.map Prod.snd)
  | poke _ m' => .poke m'
  | getSource => .getSource
  | getDestination => .getDestination
  | setDestination value => .setDestination value

end TwinAction

/-- Two header objects, each with its packet memory. -/
structure TwinState where
  fst : IPHeaderState
  snd : IPHeaderState

/-- **One action on both.** -/
def TwinState.next (s : TwinState) (a : TwinAction) : TwinState :=
  ⟨s.fst.next a.fst, s.snd.next a.snd⟩

/-- Two new header objects. -/
def TwinState.start (m m' : Mem) : TwinState := ⟨.start m, .start m'⟩

/-- **The packets agree on everything except the source address**: the twenty bytes of their
headers are the same but for the four from the twelfth on. -/
def PacketsAgree (s : TwinState) : Prop :=
  ∀ p p', s.fst.header.m_ipHeader = some p → s.snd.header.m_ipHeader = some p' →
    ∀ i < 20, ¬(12 ≤ i ∧ i < 16) → s.fst.mem (p + i) = s.snd.mem (p' + i)

/-- The address a read of `DestinationAddress` hands out. -/
def IPHeaderState.destinationRead (s : IPHeaderState) : IPAddress :=
  (s.header.getDestinationAddress s.mem).1

/-- **Every read of `DestinationAddress` returns the same in both runs.** -/
def ReadsAgree (s : TwinState) (a : TwinAction) (_ : TwinState) : Prop :=
  a = .getDestination → s.fst.destinationRead = s.snd.destinationRead

/-- **The source makes no difference**: with packets attached, the destination is the one
remembered, or both sources pass the range test, or neither does. -/
def SourceMakesNoDifference (s : TwinState) : Prop :=
  ∀ p p', s.fst.header.m_ipHeader = some p → s.snd.header.m_ipHeader = some p' →
    IPHeader.dstAddr.read s.fst.mem p = s.fst.header.destination.key ∨
      (IPHeader.srcAddr.read s.fst.mem p = 0 ↔ IPHeader.srcAddr.read s.snd.mem p' = 0)

/-! ### One object -/

section OneObject

variable {s : IPHeaderState}

/-- The destination cell after a read. -/
def IPHeaderState.refreshed (s : IPHeaderState) : Memo (BitVec 32) IPAddress :=
  match s.header.m_ipHeader with
  | none => s.header.destination
  | some p =>
    s.header.destination.refresh .ofLong (IPHeader.inRange (IPHeader.srcAddr.read s.mem p))
      (IPHeader.dstAddr.read s.mem p)

theorem destinationRead_eq : s.destinationRead = s.refreshed.value := by
  simp only [IPHeaderState.destinationRead, IPHeaderState.refreshed,
    IPHeader.getDestinationAddress]
  cases s.header.m_ipHeader <;> rfl

/-- What a read does to the object. -/
theorem next_getDestination :
    s.next .getDestination = ⟨s.mem, { s.header with destination := s.refreshed }⟩ := by
  obtain ⟨m, ptr, source, destination⟩ := s
  cases ptr <;> rfl

/-- Reading the source touches neither the pointer nor the destination cell. -/
theorem next_getSource :
    (s.next .getSource).header.m_ipHeader = s.header.m_ipHeader ∧
      (s.next .getSource).header.destination = s.header.destination := by
  obtain ⟨m, ptr, source, destination⟩ := s
  cases ptr <;> exact ⟨rfl, rfl⟩

/-- An assignment puts the address into the cell, with its word. -/
theorem next_setDestination (value : IPAddress) :
    (s.next (.setDestination value)).header.m_ipHeader = s.header.m_ipHeader ∧
      (s.next (.setDestination value)).header.destination =
        ⟨IPHeader.addressWord value, value⟩ := by
  rw [IPHeaderState.next, IPHeader.setDestinationAddress_eq_ok]
  exact ⟨rfl, rfl⟩

theorem faithful_refreshed (h : FaithfulCell s.header.destination) : FaithfulCell s.refreshed := by
  rw [IPHeaderState.refreshed]
  cases s.header.m_ipHeader with
  | none => exact h
  | some p => exact h.refresh ofLong_injective

end OneObject

/-! ### The twin -/

/-- **What the two objects share** as long as their reads agree: whether a packet is
attached, and the destination cell. -/
structure TwinInv (s : TwinState) : Prop where
  attached : s.fst.header.m_ipHeader.isSome = s.snd.header.m_ipHeader.isSome
  cell : s.fst.header.destination = s.snd.header.destination
  faithful : FaithfulCell s.fst.header.destination

theorem twinInv_start (m m' : Mem) : TwinInv (.start m m') where
  attached := rfl
  cell := rfl
  faithful := Memo.Coherent.faithful ofLong_injective
    (show IPAddress.any = IPAddress.ofLong 0 from congrArg IPAddress.v4 (by decide))

section Twin

variable {s : TwinState}

/-- Either both objects have a packet attached, or neither has. -/
theorem TwinInv.pointers (hs : TwinInv s) :
    (s.fst.header.m_ipHeader = none ∧ s.snd.header.m_ipHeader = none) ∨
      ∃ p p', s.fst.header.m_ipHeader = some p ∧ s.snd.header.m_ipHeader = some p' := by
  have hattached := hs.attached
  cases hp : s.fst.header.m_ipHeader with
  | none =>
    rw [hp] at hattached
    exact Or.inl ⟨rfl, Option.isSome_eq_false_iff.mp hattached.symm |> Option.isNone_iff_eq_none.mp⟩
  | some p =>
    rw [hp] at hattached
    obtain ⟨p', hp'⟩ := Option.isSome_iff_exists.mp hattached.symm
    exact Or.inr ⟨p, p', rfl, hp'⟩

/-- Packets that agree have the same destination. -/
theorem dstAddr_eq_of_packetsAgree (h : PacketsAgree s) {p p' : ℕ}
    (hp : s.fst.header.m_ipHeader = some p) (hp' : s.snd.header.m_ipHeader = some p') :
    IPHeader.dstAddr.read s.fst.mem p = IPHeader.dstAddr.read s.snd.mem p' := by
  refine load_congr (n := 4) fun i hi => ?_
  have hbyte := h p p' hp hp' (16 + i) (by omega) (by omega)
  rwa [← Nat.add_assoc, ← Nat.add_assoc] at hbyte

/-- The range tests agree when both sources are zero, or neither is. -/
theorem inRange_eq_iff (x y : BitVec 32) :
    IPHeader.inRange x = IPHeader.inRange y ↔ (x = 0 ↔ y = 0) := by
  rw [Bool.eq_iff_iff, inRange_iff, inRange_iff]
  exact not_iff_not

/-- **When a read agrees**: exactly when the source makes no difference. -/
theorem destinationRead_eq_iff (hs : TwinInv s) (hpackets : PacketsAgree s) :
    s.fst.destinationRead = s.snd.destinationRead ↔ SourceMakesNoDifference s := by
  rw [destinationRead_eq, destinationRead_eq, IPHeaderState.refreshed, IPHeaderState.refreshed]
  rcases hs.pointers with ⟨hp, hp'⟩ | ⟨p, p', hp, hp'⟩
  · simp only [hp, hp', hs.cell]
    refine iff_of_true trivial fun p _ h => ?_
    rw [hp] at h
    cases h
  · have hdst := dstAddr_eq_of_packetsAgree hpackets hp hp'
    simp only [hp, hp', ← hs.cell, ← hdst]
    rw [Memo.refresh_value_eq_refresh_iff hs.faithful, inRange_eq_iff]
    constructor
    · intro h q q' hq hq'
      obtain rfl := Option.some.inj (hp.symm.trans hq)
      obtain rfl := Option.some.inj (hp'.symm.trans hq')
      exact h
    · exact fun h => h p p' hp hp'

/-- Reads that agree leave the same cell. -/
theorem refreshed_eq (hs : TwinInv s) (hpackets : PacketsAgree s)
    (h : SourceMakesNoDifference s) : s.fst.refreshed = s.snd.refreshed := by
  rw [IPHeaderState.refreshed, IPHeaderState.refreshed]
  rcases hs.pointers with ⟨hp, hp'⟩ | ⟨p, p', hp, hp'⟩
  · simp only [hp, hp', hs.cell]
  · have hdst := dstAddr_eq_of_packetsAgree hpackets hp hp'
    simp only [hp, hp', ← hs.cell, ← hdst]
    exact Memo.refresh_congr ((h p p' hp hp').imp_right (inRange_eq_iff _ _).mpr)

/-- **Every action keeps what the objects share**, a read if the source makes no
difference. -/
theorem twinInv_next (hs : TwinInv s) (hpackets : PacketsAgree s) {a : TwinAction}
    (ha : a = .getDestination → SourceMakesNoDifference s) : TwinInv (s.next a) := by
  cases a with
  | attach value =>
    refine ⟨?_, hs.cell, hs.faithful⟩
    cases value <;> rfl
  | poke m m' => exact ⟨hs.attached, hs.cell, hs.faithful⟩
  | getSource =>
    obtain ⟨hptr, hcell⟩ := next_getSource (s := s.fst)
    obtain ⟨hptr', hcell'⟩ := next_getSource (s := s.snd)
    refine ⟨?_, hcell.trans (hs.cell.trans hcell'.symm), hcell ▸ hs.faithful⟩
    simp only [TwinState.next, TwinAction.fst, TwinAction.snd, hptr, hptr']
    exact hs.attached
  | getDestination =>
    rw [TwinState.next, TwinAction.fst, TwinAction.snd, next_getDestination, next_getDestination]
    exact ⟨hs.attached, refreshed_eq hs hpackets (ha rfl), faithful_refreshed hs.faithful⟩
  | setDestination value =>
    obtain ⟨hptr, hcell⟩ := next_setDestination (s := s.fst) value
    obtain ⟨hptr', hcell'⟩ := next_setDestination (s := s.snd) value
    refine ⟨?_, hcell.trans hcell'.symm, hcell ▸ faithful_assigned value⟩
    simp only [TwinState.next, TwinAction.fst, TwinAction.snd, hptr, hptr']
    exact hs.attached

end Twin

/-- **When the destination does not depend on the source**: over any two runs of the same
actions, on packets that agree on everything except the source address, every read of
`DestinationAddress` returns the same address in both exactly when at every read the source
makes no difference. -/
theorem destinationReads_iff (m m' : Mem) {l : List TwinAction}
    (hpackets : EveryState (always TwinState.next) PacketsAgree (.start m m') l) :
    EveryStep (always TwinState.next) ReadsAgree (.start m m') l ↔
      EveryStep (always TwinState.next)
        (fun s a _ => a = .getDestination → SourceMakesNoDifference s) (.start m m') l := by
  refine everyStep_congr_of_invariant ?_ ?_ (twinInv_start m m') hpackets
  · intro s a t hs hagree _
    exact imp_congr_right fun _ => destinationRead_eq_iff hs hagree
  · intro s a t hs hagree hreads hstep
    obtain rfl : s.next a = t := Option.some.inj hstep
    exact twinInv_next hs hagree fun ha => (destinationRead_eq_iff hs hagree).mp (hreads ha)

/-! #### A client without an address -/

/-- A packet to `10.0.0.2`. -/
def packetFrom (source : List Byte) : Mem :=
  ofBytes (List.replicate 12 0 ++ source ++ [10, 0, 0, 2])

/-- Attaching a packet and reading its destination. -/
def readOnce : List TwinAction := [.attach (some (0, 0)), .getDestination]

/-- Packets to `10.0.0.2` that agree on everything except the source address do so throughout. -/
theorem packetsAgree_readOnce {source source' : List Byte}
    (h : ∀ i < 20, ¬(12 ≤ i ∧ i < 16) → packetFrom source i = packetFrom source' i) :
    EveryState (always TwinState.next) PacketsAgree
      (.start (packetFrom source) (packetFrom source')) readOnce := by
  have hagree : ∀ p p' : ℕ, some 0 = some p → some 0 = some p' → ∀ i < 20, ¬(12 ≤ i ∧ i < 16) →
      packetFrom source (p + i) = packetFrom source' (p' + i) := by
    rintro p p' hp hp' i hi hnot
    obtain rfl := Option.some.inj hp
    obtain rfl := Option.some.inj hp'
    rw [Nat.zero_add]
    exact h i hi hnot
  refine everyState_cons.mpr ⟨nofun, fun t ht => ?_⟩
  obtain rfl := Option.some.inj ht
  refine everyState_cons.mpr ⟨hagree, fun t ht => ?_⟩
  obtain rfl := Option.some.inj ht
  exact everyState_nil.mpr hagree

/-- Of two clients with addresses, the destination is the same. -/
theorem destinationReads_clients :
    EveryStep (always TwinState.next) ReadsAgree
      (.start (packetFrom [10, 0, 0, 1]) (packetFrom [10, 0, 0, 9])) readOnce := by
  refine (destinationReads_iff _ _ (packetsAgree_readOnce (by decide))).mpr ?_
  refine everyStep_cons.mpr fun t ht => ⟨nofun, everyStep_cons.mpr fun t' ht' => ?_⟩
  obtain rfl := Option.some.inj ht
  refine ⟨fun _ p p' hp hp' => Or.inr ?_, everyStep_nil⟩
  obtain rfl := Option.some.inj hp
  obtain rfl := Option.some.inj hp'
  decide

/-- **A destination that depends on the source**: from a client without an address yet, the same
packet to `10.0.0.2` reads as if it had no destination. -/
theorem not_destinationReads :
    EveryState (always TwinState.next) PacketsAgree
        (.start (packetFrom [10, 0, 0, 1]) (packetFrom [0, 0, 0, 0])) readOnce ∧
      ¬EveryStep (always TwinState.next) ReadsAgree
        (.start (packetFrom [10, 0, 0, 1]) (packetFrom [0, 0, 0, 0])) readOnce := by
  refine ⟨packetsAgree_readOnce (by decide), fun h => ?_⟩
  have hread := h [.attach (some (0, 0))] .getDestination [] _ _ rfl rfl rfl rfl
  exact absurd (congrArg IPAddress.getAddressBytes hread) (by decide)

end DivertNet
