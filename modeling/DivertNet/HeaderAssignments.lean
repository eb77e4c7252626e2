import DivertNet.HeaderFields

/-!
# Sequences of assignments to a header

What a header holds after any number of assignments to its numeric properties. The fields
of a class have no bit in common (`DivertNet.NumericProperty.apart`), so a header is a
family of independent cells, `DivertNet.NumericProperty.cells`, and the field of each
property ends up with what the last assignment to it stores
(`DivertNet.NumericProperty.field_assignAll`).

Three things follow for whole classes.

* An assignment stays within its field, and assignments to different properties commute:
  `DivertNet.setters_keep_apart`.
* Writing back what was read changes nothing – unless the property is `Psh`, whose setter
  swaps what its getter does not: `DivertNet.writeBackAll_eq_iff`.
* The eight bytes of a UDP, ICMP or ICMPv6 header are the big-endian encoding of the
  values last assigned: `DivertNet.smallHeaders_encode`.
-/

namespace DivertNet

open LittleEndian WireField

variable {k : HeaderKind}

/-! ### Getters, setters and the cells behind them -/

/-- An assignment to a property of a header class. -/
abbrev Assignment (k : HeaderKind) := Σ n : NumericProperty k, BitVec n.wire.width

namespace NumericProperty

/-- The getter. -/
def get (n : NumericProperty k) (hdr : Option ℕ) (m : Mem) : BitVec n.wire.width :=
  n.wire.property.get hdr m

/-- The setter. -/
def set (n : NumericProperty k) (hdr : Option ℕ) (v : BitVec n.wire.width) (m : Mem) : Mem :=
  n.wire.property.set hdr v m

/-- **The number in the field** of the header at `a`, in the width of the property. -/
def value (n : NumericProperty k) (m : Mem) (a : ℕ) : BitVec n.wire.width :=
  (n.wire.field.get m a).setWidth n.wire.width

/-- What an assignment stores in the field. -/
def stored (n : NumericProperty k) (v : BitVec n.wire.width) : BitVec n.wire.field.len :=
  (n.wire.writeSwap v).setWidth n.wire.field.len

/-- Assignments one after another, through the pointer of the header object. -/
def assignAll (hdr : Option ℕ) (l : List (Assignment k)) (m : Mem) : Mem :=
  l.foldl (fun m x => x.1.set hdr x.2 m) m

/-- **What a property should be after the assignments**: the value last assigned to it, or
what was in its field. -/
def expected (n : NumericProperty k) (l : List (Assignment k)) (m : Mem) (a : ℕ) :
    BitVec n.wire.width :=
  (Cells.last n l).getD (n.value m a)

theorem get_some (n : NumericProperty k) (a : ℕ) (m : Mem) :
    n.get (some a) m = n.wire.readSwap (n.value m a) := n.wire.onWire.read_eq m a

theorem set_some (n : NumericProperty k) (a : ℕ) (v : BitVec n.wire.width) (m : Mem) :
    n.set (some a) v m = n.wire.field.set (n.stored v) m a := n.wire.onWire.write_eq v m a

@[simp] theorem get_none (n : NumericProperty k) (m : Mem) : n.get none m = 0 := rfl

/-- **A header is a family of independent cells**, its fields. -/
def cells (k : HeaderKind) (a : ℕ) :
    Cells.Family Mem (NumericProperty k) fun n => BitVec n.wire.field.len where
  get n m := n.wire.field.get m a
  set n v m := n.wire.field.set v m a
  get_set n v m := n.wire.field.get_set v m a
  get_set_of_ne v m h := Field.get_set_of_apart (apart h) v m a

theorem assignAll_some (a : ℕ) (l : List (Assignment k)) (m : Mem) :
    assignAll (some a) l m =
      Cells.setAll (cells k a) (l.map fun x => ⟨x.1, x.1.stored x.2⟩) m := by
  rw [assignAll, Cells.setAll, List.foldl_map]
  exact congrArg (fun f => l.foldl f m) (funext₂ fun m x => x.1.set_some a x.2 m)

/-- Without a header nothing is assigned. -/
theorem assignAll_none (l : List (Assignment k)) (m : Mem) : assignAll none l m = m := by
  induction l with
  | nil => rfl
  | cons x xs ih => exact ih

/-- **A field after a sequence of assignments** holds what the last one to its property
stored, or what it held before. -/
theorem field_assignAll (n : NumericProperty k) (a : ℕ) (l : List (Assignment k)) (m : Mem) :
    n.wire.field.get (assignAll (some a) l m) a =
      ((Cells.last n l).map n.stored).getD (n.wire.field.get m a) := by
  have hcells := Cells.get_setAll (cells k a) n (l.map fun x => ⟨x.1, x.1.stored x.2⟩) m
  rw [Cells.last_map fun n => stored n, ← assignAll_some] at hcells
  exact hcells

/-- **When a field ends up as expected**: when the value last assigned to the property, if
there is one, is stored as it is. -/
theorem value_assignAll_iff (n : NumericProperty k) (a : ℕ) (l : List (Assignment k))
    (m : Mem) :
    n.value (assignAll (some a) l m) a = n.expected l m a ↔
      ∀ v, Cells.last n l = some v → (n.stored v).setWidth n.wire.width = v := by
  rw [value, field_assignAll, expected]
  cases Cells.last n l with
  | none => simp [value]
  | some v => simp

end NumericProperty

/-! ### Assignments stay within their fields -/

/-- Bit `j` of the byte at `x` belongs to a field of the header at `a`. -/
def Covers (f : Field) (a x j : ℕ) : Prop := a ≤ x ∧ f.Has (8 * (x - a) + (7 - j))

/-- **A setter changes at most the bits of its own field.** -/
def ChangesOwnBits (n : NumericProperty k) : Prop :=
  ∀ hdr v m x j, j < 8 → (n.set hdr v m x).getLsbD j ≠ (m x).getLsbD j →
    ∃ a, hdr = some a ∧ Covers n.wire.field a x j

/-- **The setters of two properties of a header commute.** -/
def SettersCommute (n n' : NumericProperty k) : Prop :=
  ∀ hdr v v' m, n.set hdr v (n'.set hdr v' m) = n'.set hdr v' (n.set hdr v m)

theorem changesOwnBits (n : NumericProperty k) : ChangesOwnBits n := by
  rintro (_ | a) v m x j hj hne
  · exact absurd rfl hne
  · refine ⟨a, rfl, ?_⟩
    rw [n.set_some] at hne
    by_cases hx : a ≤ x
    · refine ⟨hx, ?_⟩
      by_contra hout
      rw [getLsbD_eq_bitAt hx hj, getLsbD_eq_bitAt hx hj,
        Field.bitAt_set_of_not_has _ _ _ hout] at hne
      exact hne rfl
    · rw [Field.set_before _ _ _ (by omega)] at hne
      exact absurd rfl hne

theorem settersCommute {n n' : NumericProperty k} (h : n ≠ n') : SettersCommute n n' := by
  rintro (_ | a) v v' m
  · rfl
  · simp only [NumericProperty.set_some]
    exact Field.set_comm_of_apart (NumericProperty.apart h) _ _ m a

/-- **Setters keep apart**: in every class, each numeric property's setter changes at most
the bits of its own field, whatever the value, and the setters of two properties give the
same bytes in either order. -/
theorem setters_keep_apart (k : HeaderKind) :
    (∀ n : NumericProperty k, ChangesOwnBits n) ∧
      ∀ n n' : NumericProperty k, n ≠ n' → SettersCommute n n' :=
  ⟨changesOwnBits, fun _ _ h => settersCommute h⟩

/-- `HeaderLength` and `Fin` of `TCPHeader` lie in one word, and are set in either order. -/
theorem setters_keep_apart_fin :
    SettersCommute (k := .tcp) TCPHeader.Numeric.headerLength TCPHeader.Numeric.fin :=
  (setters_keep_apart .tcp).2 TCPHeader.Numeric.headerLength TCPHeader.Numeric.fin nofun

/-! ### Writing back what was read -/

/-- A read of a property through a header object, and the assignment of the value to the
same property. -/
structure WriteBack where
  kind : HeaderKind
  property : NumericProperty kind
  hdr : Option ℕ

/-- What it makes of the memory. -/
def WriteBack.run (b : WriteBack) (m : Mem) : Mem :=
  b.property.set b.hdr (b.property.get b.hdr m) m

/-- A sequence of them. -/
def writeBackAll (l : List WriteBack) (m : Mem) : Mem := l.foldl (fun m b => b.run m) m

/-- The flag `PSH` of the TCP header at `a`. -/
def pshFlag (m : Mem) (a : ℕ) : BitVec 1 := Field.get ⟨108, 1⟩ m a

/-- **The value read comes back**: what a getter makes of the number in the field, the
setter turns back into that number. -/
def NumericProperty.ReadsBack (n : NumericProperty k) : Prop :=
  ∀ y : BitVec n.wire.field.len, n.stored (n.wire.readSwap (y.setWidth n.wire.width)) = y

/-- It does where the swaps undo each other and the field fits the property. -/
theorem readsBack_of_swaps {n : NumericProperty k} (hlen : n.wire.field.len ≤ n.wire.width)
    (hswap : ∀ x, n.wire.writeSwap (n.wire.readSwap x) = x) : n.ReadsBack := by
  intro y
  rw [NumericProperty.stored, hswap, BitVec.setWidth_setWidth_of_le _ hlen, BitVec.setWidth_eq]

/-- **Every property but `Psh` reads back.** -/
theorem readsBack_or_psh : ∀ {k : HeaderKind} (n : NumericProperty k),
    n.ReadsBack ∨ (⟨k, n⟩ : Σ k, NumericProperty k) = ⟨.tcp, TCPHeader.Numeric.psh⟩ := by
  intro k n
  cases k <;> cases n <;>
    first
    | exact Or.inr rfl
    | exact Or.inl (readsBack_of_swaps (by decide) fun _ => rfl)
    | exact Or.inl (readsBack_of_swaps (by decide) byteSwap16_byteSwap16)
    | exact Or.inl (readsBack_of_swaps (by decide) byteSwap32_byteSwap32)
    | exact Or.inl (readsBack_of_swaps (by decide) fun x =>
        (congrArg swapLow (byteSwap32_byteSwap32 _)).trans (swapLow_swapLow x))

/-- A property that reads back is written back without a change. -/
theorem run_of_readsBack {n : NumericProperty k} (h : n.ReadsBack) (hdr : Option ℕ) (m : Mem) :
    WriteBack.run ⟨k, n, hdr⟩ m = m := by
  cases hdr with
  | none => rfl
  | some a =>
    rw [WriteBack.run, n.get_some, n.set_some, NumericProperty.value, h]
    exact Field.set_get _ m a

/-- **Writing `Psh` back clears the flag**, set or not. -/
theorem run_psh (a : ℕ) (m : Mem) :
    WriteBack.run ⟨.tcp, TCPHeader.Numeric.psh, some a⟩ m = Field.set ⟨108, 1⟩ 0 m a := by
  have hstored : ∀ y : BitVec 1, (byteSwap16 (y.setWidth 16)).setWidth 1 = 0 := by decide
  rw [WriteBack.run, NumericProperty.get_some, NumericProperty.set_some]
  exact congrArg (fun y => Field.set ⟨108, 1⟩ y m a) (hstored _)

/-- Every bit set in the first memory is set in the second. -/
def BitsBelow (m' m : Mem) : Prop := ∀ x j, (m' x).getLsbD j = true → (m x).getLsbD j = true

theorem BitsBelow.antisymm {m m' : Mem} (h : BitsBelow m' m) (h' : BitsBelow m m') : m' = m := by
  funext x
  refine BitVec.eq_of_getLsbD_eq fun j _ => Bool.eq_iff_iff.mpr ⟨h x j, h' x j⟩

/-- Clearing a field clears bits only. -/
theorem bitsBelow_set_zero (f : Field) (m : Mem) (a : ℕ) : BitsBelow (f.set 0 m a) m := by
  intro x j hbit
  have hj : j < 8 := BitVec.lt_of_getLsbD hbit
  by_cases hx : a ≤ x
  · rw [getLsbD_eq_bitAt hx hj, Field.bitAt_set] at hbit
    rw [getLsbD_eq_bitAt hx hj]
    split at hbit
    · simp at hbit
    · exact hbit
  · rwa [Field.set_before _ _ _ (by omega)] at hbit

/-- **What a write-back changes**: nothing, or it clears the flag `PSH`. -/
theorem run_cases (b : WriteBack) (m : Mem) :
    (b.run m = m ∧ ∀ a, b ≠ ⟨.tcp, TCPHeader.Numeric.psh, some a⟩) ∨
      ∃ a, b = ⟨.tcp, TCPHeader.Numeric.psh, some a⟩ ∧ b.run m = Field.set ⟨108, 1⟩ 0 m a := by
  obtain ⟨k, n, hdr⟩ := b
  rcases readsBack_or_psh n with h | h
  · refine Or.inl ⟨run_of_readsBack h hdr m, ?_⟩
    rintro a ⟨⟩
    exact absurd (h 1) (by decide)
  · cases h
    cases hdr with
    | none => exact Or.inl ⟨rfl, fun a h => nomatch h⟩
    | some a => exact Or.inr ⟨a, rfl, run_psh a m⟩

/-- A sequence of write-backs sets no bit. -/
theorem bitsBelow_writeBackAll (l : List WriteBack) (m : Mem) :
    BitsBelow (writeBackAll l m) m := by
  induction l generalizing m with
  | nil => exact fun _ _ h => h
  | cons b bs ih =>
    intro x j hbit
    have hrun := ih (b.run m) x j hbit
    rcases run_cases b m with ⟨hsame, -⟩ | ⟨a, -, hset⟩
    · rwa [hsame] at hrun
    · rw [hset] at hrun
      exact bitsBelow_set_zero _ m a x j hrun

/-- **When a sequence of write-backs changes nothing**: whatever the packet, the headers and
the order, exactly when it writes `Psh` back on no header whose flag `PSH` is set. -/
theorem writeBackAll_eq_iff (l : List WriteBack) (m : Mem) :
    writeBackAll l m = m ↔
      ∀ a, ⟨.tcp, TCPHeader.Numeric.psh, some a⟩ ∈ l → pshFlag m a = 0 := by
  induction l with
  | nil => simp [writeBackAll]
  | cons b bs ih =>
    -- what is cleared once is not set again
    have hfirst : writeBackAll (b :: bs) m = m → b.run m = m := by
      intro h
      refine BitsBelow.antisymm (bitsBelow_writeBackAll [b] m) fun x j hbit => ?_
      exact bitsBelow_writeBackAll bs (b.run m) x j (h.symm ▸ hbit)
    have hcons : writeBackAll (b :: bs) m = m ↔ b.run m = m ∧ writeBackAll bs m = m := by
      constructor
      · intro h
        have hb := hfirst h
        refine ⟨hb, ?_⟩
        rwa [writeBackAll, List.foldl_cons, hb] at h
      · rintro ⟨hb, hbs⟩
        rw [writeBackAll, List.foldl_cons, hb]
        exact hbs
    rw [hcons, ih]
    rcases run_cases b m with ⟨hsame, hne⟩ | ⟨a, rfl, hset⟩
    · simp only [hsame, true_and, List.mem_cons]
      refine forall_congr' fun a => ?_
      rw [or_iff_right (hne a).symm]
    · rw [hset, Field.set_eq_self_iff]
      constructor
      · rintro ⟨hflag, hrest⟩ a' ha'
        rcases List.mem_cons.mp ha' with h | h
        · cases h
          exact hflag
        · exact hrest a' h
      · exact fun h => ⟨h a List.mem_cons_self, fun a' ha' => h a' (List.mem_cons_of_mem _ ha')⟩

/-- A TCP header with the flags `PSH` and `ACK`. -/
def pushHeader : Mem :=
  ofBytes [0xC3, 0x7E, 0, 80, 0, 0, 0, 1, 0, 0, 0, 2, 0x50, 0x18, 0xFF, 0xFF, 0, 0, 0, 0]

/-- **Copying `Psh` onto itself clears it.** -/
theorem writeBackAll_psh_ne :
    writeBackAll [⟨.tcp, TCPHeader.Numeric.psh, some 0⟩] pushHeader ≠ pushHeader :=
  fun h => absurd (congrFun h 13) (by decide)

/-! ### The headers of eight bytes -/

/-- The eight bytes of a UDP header with these values. -/
def UDPHeader.encode (value : (n : UDPHeader.Numeric) → BitVec n.wire.width) : List Byte :=
  bigEndian (value .sourcePort) ++ bigEndian (value .destinationPort) ++
    bigEndian (value .length) ++ bigEndian (value .checksum)

/-- The first eight bytes of an ICMP message with these values. -/
def ICMPHeader.encode (value : (n : ICMPHeader.Numeric) → BitVec n.wire.width) : List Byte :=
  bigEndian (value .type) ++ bigEndian (value .code) ++ bigEndian (value .checksum) ++
    bigEndian (value .body)

/-- The first eight bytes of an ICMPv6 message with these values. -/
def ICMPv6Header.encode (value : (n : ICMPv6Header.Numeric) → BitVec n.wire.width) : List Byte :=
  bigEndian (value .type) ++ bigEndian (value .code) ++ bigEndian (value .checksum) ++
    bigEndian (value .body)

/-- **A header class encodes what is assigned**: after any sequence of assignments the eight
bytes of an attached header spell the expected values, which the getters return; without a
header nothing changes, and the getters return zero. -/
def EncodesAssignments (k : HeaderKind)
    (encode : ((n : NumericProperty k) → BitVec n.wire.width) → List Byte) : Prop :=
  ∀ (l : List (Assignment k)) (m : Mem),
    (∀ a, readBytes (NumericProperty.assignAll (some a) l m) a 8 =
        encode (fun n => n.expected l m a) ∧
      ∀ n : NumericProperty k,
        n.get (some a) (NumericProperty.assignAll (some a) l m) = n.expected l m a) ∧
    NumericProperty.assignAll none l m = m ∧
      ∀ n : NumericProperty k, n.get none (NumericProperty.assignAll none l m) = 0

/-- A property that is a field of its own width. -/
def NumericProperty.IsWhole (n : NumericProperty k) : Prop :=
  n.wire.field.len = n.wire.width ∧ (∀ x, n.wire.readSwap x = x) ∧ ∀ x, n.wire.writeSwap x = x

/-- Such a property ends up with the value last assigned. -/
theorem NumericProperty.IsWhole.value_eq {n : NumericProperty k} (h : n.IsWhole) (a : ℕ)
    (l : List (Assignment k)) (m : Mem) :
    n.value (assignAll (some a) l m) a = n.expected l m a := by
  refine (n.value_assignAll_iff a l m).mpr fun v _ => ?_
  rw [stored, h.2.2, BitVec.setWidth_setWidth_of_le _ h.1.ge, BitVec.setWidth_eq]

theorem NumericProperty.IsWhole.get_eq {n : NumericProperty k} (h : n.IsWhole) (a : ℕ)
    (l : List (Assignment k)) (m : Mem) :
    n.get (some a) (assignAll (some a) l m) = n.expected l m a := by
  rw [n.get_some, h.2.1, h.value_eq]

/-- **The bytes of such a field** spell the value last assigned. -/
theorem NumericProperty.IsWhole.readBytes_eq {n : NumericProperty k} (h : n.IsWhole) {c b : ℕ}
    (hfield : n.wire.field = ⟨8 * c, 8 * b⟩) (a : ℕ) (l : List (Assignment k)) (m : Mem) :
    readBytes (assignAll (some a) l m) (a + c) b = bigEndian (n.expected l m a) := by
  rw [Field.readBytes_eq_bigEndian, ← hfield, ← h.value_eq, value, bigEndian_setWidth h.1]

/-- Four byte strings, one after the other. -/
theorem append_four {s t u v s' t' u' v' : List Byte} (hs : s = s') (ht : t = t') (hu : u = u')
    (hv : v = v') : s ++ t ++ u ++ v = s' ++ t' ++ u' ++ v' := by
  rw [hs, ht, hu, hv]

/-- Every property of the three small headers is such a field. -/
theorem isWhole_udp (n : UDPHeader.Numeric) : NumericProperty.IsWhole (k := .udp) n := by
  cases n <;> exact ⟨rfl, fun _ => rfl, fun _ => rfl⟩

theorem isWhole_icmp (n : ICMPHeader.Numeric) : NumericProperty.IsWhole (k := .icmp) n := by
  cases n <;> exact ⟨rfl, fun _ => rfl, fun _ => rfl⟩

theorem isWhole_icmpv6 (n : ICMPv6Header.Numeric) : NumericProperty.IsWhole (k := .icmpv6) n := by
  cases n <;> exact ⟨rfl, fun _ => rfl, fun _ => rfl⟩

/-- A class encodes what is assigned if its properties are whole fields and its encoding
agrees with them on the eight bytes. -/
theorem encodesAssignments_of_whole
    {encode : ((n : NumericProperty k) → BitVec n.wire.width) → List Byte}
    (hwhole : ∀ n : NumericProperty k, n.IsWhole)
    (hbytes : ∀ (l : List (Assignment k)) (m : Mem) (a : ℕ),
      readBytes (NumericProperty.assignAll (some a) l m) a 8 =
        encode fun n => n.expected l m a) : EncodesAssignments k encode := by
  intro l m
  refine ⟨fun a => ⟨hbytes l m a, fun n => (hwhole n).get_eq a l m⟩, ?_, fun n => ?_⟩
  · exact NumericProperty.assignAll_none l m
  · exact n.get_none _

/-- **The small headers encode what is assigned to them**: `UDPHeader`, `ICMPHeader` and
`ICMPv6Header`, for every sequence of assignments of any values. -/
theorem smallHeaders_encode :
    EncodesAssignments .udp UDPHeader.encode ∧ EncodesAssignments .icmp ICMPHeader.encode ∧
      EncodesAssignments .icmpv6 ICMPv6Header.encode := by
  refine ⟨encodesAssignments_of_whole isWhole_udp fun l m a => ?_,
    encodesAssignments_of_whole isWhole_icmp fun l m a => ?_,
    encodesAssignments_of_whole isWhole_icmpv6 fun l m a => ?_⟩
  · rw [show 8 = 2 + 2 + 2 + 2 from rfl, readBytes_add, readBytes_add, readBytes_add]
    exact append_four
      ((isWhole_udp .sourcePort).readBytes_eq (c := 0) (b := 2) rfl a l m)
      ((isWhole_udp .destinationPort).readBytes_eq (c := 2) (b := 2) rfl a l m)
      ((isWhole_udp .length).readBytes_eq (c := 4) (b := 2) rfl a l m)
      ((isWhole_udp .checksum).readBytes_eq (c := 6) (b := 2) rfl a l m)
  · rw [show 8 = 1 + 1 + 2 + 4 from rfl, readBytes_add, readBytes_add, readBytes_add]
    exact append_four
      ((isWhole_icmp .type).readBytes_eq (c := 0) (b := 1) rfl a l m)
      ((isWhole_icmp .code).readBytes_eq (c := 1) (b := 1) rfl a l m)
      ((isWhole_icmp .checksum).readBytes_eq (c := 2) (b := 2) rfl a l m)
      ((isWhole_icmp .body).readBytes_eq (c := 4) (b := 4) rfl a l m)
  · rw [show 8 = 1 + 1 + 2 + 4 from rfl, readBytes_add, readBytes_add, readBytes_add]
    exact append_four
      ((isWhole_icmpv6 .type).readBytes_eq (c := 0) (b := 1) rfl a l m)
      ((isWhole_icmpv6 .code).readBytes_eq (c := 1) (b := 1) rfl a l m)
      ((isWhole_icmpv6 .checksum).readBytes_eq (c := 2) (b := 2) rfl a l m)
      ((isWhole_icmpv6 .body).readBytes_eq (c := 4) (b := 4) rfl a l m)

end DivertNet
