import DivertNet.IPv6Header

/-!
# Assigning an address to a packet

The four address setters take an `IPAddress` of either family and write it into a field
of four bytes (`IPHeader`) or of sixteen (`IPv6Header`). None of them looks at the
family, and none throws. This file says which of the values arrive:
`DivertNet.exactAssignment_iff` – into an IPv4 header exactly the IPv4 addresses, into an
IPv6 header exactly the IPv6 addresses whose bytes after the first are zero.

What does hold for every value is the frame: no byte outside the field changes
(`DivertNet.writeAddress_frame`, `DivertNet.writeWords_frame`).
-/

namespace DivertNet

open LittleEndian

/-- **An assignment that arrives or throws**: the field of `width` bytes at `a` holds
exactly the bytes of the value afterwards, and no other byte has changed. An assignment
that throws yields no new packet or object. -/
def ExactAssignment {H : Type} (width a : ℕ) (value : IPAddress) (m : Mem) :
    Except ClrException (Mem × H) → Prop
  | .error _ => True
  | .ok (m', _) => readField width m' a = value.getAddressBytes ∧
      ∀ x, ¬(a ≤ x ∧ x < a + width) → m' x = m x
where
  /-- The bytes of a field. -/
  readField (width : ℕ) (m : Mem) (a : ℕ) : List Byte := List.ofFn fun i : Fin width => m (a + i)

/-- A field can only hold the bytes of an address of its own length. -/
theorem length_of_readField {width : ℕ} {m : Mem} {a : ℕ} {value : IPAddress}
    (h : ExactAssignment.readField width m a = value.getAddressBytes) :
    value.getAddressBytes.length = width := by
  rw [← h, ExactAssignment.readField, List.length_ofFn]

/-! ### The four bytes of an IPv4 field -/

/-- No byte outside the four of the field changes. -/
theorem writeAddress_frame (value : IPAddress) (m : Mem) {a x : ℕ} (hx : ¬(a ≤ x ∧ x < a + 4)) :
    store 4 (IPHeader.addressWord value) m a x = m x := store_of_not_mem _ m hx

/-- **An IPv4 field holds what was assigned exactly when that is an IPv4 address.** -/
theorem readField_writeAddress_iff (value : IPAddress) (m : Mem) (a : ℕ) :
    ExactAssignment.readField 4 (store 4 (IPHeader.addressWord value) m a) a =
        value.getAddressBytes ↔ ∃ b, value = .v4 b := by
  constructor
  · intro h
    cases value with
    | v4 b => exact ⟨b, rfl⟩
    | v6 b =>
      have hlen := length_of_readField h
      rw [IPAddress.getAddressBytes_v6, List.length_ofFn] at hlen
      omega
  · rintro ⟨b, rfl⟩
    refine congrArg List.ofFn (funext fun i => ?_)
    rw [store_offset _ m a i.isLt]
    exact congrFun (IPAddress.v4.inj (ofLong_addressWord b)) i

/-! ### The four words of an IPv6 field -/

/-- An address field of the IPv6 header: four raw words in a row. -/
def IsAddressField (field : Fin 4 → HeaderProperty .ipv6 32) (off : ℕ) : Prop :=
  ∀ i v m p, (field i).write v m p = store 4 v m (p + off + 4 * i)

theorem isAddressField_srcAddr : IsAddressField IPv6Header.srcAddr 8 :=
  fun i v m p => congrArg (store 4 v m) (Nat.add_assoc p 8 (4 * i)).symm

theorem isAddressField_dstAddr : IsAddressField IPv6Header.dstAddr 24 :=
  fun i v m p => congrArg (store 4 v m) (Nat.add_assoc p 24 (4 * i)).symm

section Words

variable {field : Fin 4 → HeaderProperty .ipv6 32} {off : ℕ} (hf : IsAddressField field off)
  (k : AddressWords) (m : Mem) (p : ℕ)

include hf

/-- The four assignments as four stores. -/
theorem writeWords_eq :
    IPv6Header.writeWords field (some p) k m =
      store 4 (k 3) (store 4 (k 2) (store 4 (k 1) (store 4 (k 0) m (p + off)) (p + off + 4))
        (p + off + 8)) (p + off + 12) := by
  simp only [IPv6Header.writeWords, Property.set_some]
  rw [hf 0, hf 1, hf 2, hf 3]
  rfl

/-- No byte outside the sixteen of the field changes. -/
theorem writeWords_frame {x : ℕ} (hx : ¬(p + off ≤ x ∧ x < p + off + 16)) :
    IPv6Header.writeWords field (some p) k m x = m x := by
  rw [writeWords_eq hf, store_of_not_mem _ _ (by omega), store_of_not_mem _ _ (by omega),
    store_of_not_mem _ _ (by omega), store_of_not_mem _ _ (by omega)]

/-- Each word of the field is the one assigned to it. -/
theorem load_writeWords (i : Fin 4) :
    load 32 4 (IPv6Header.writeWords field (some p) k m) (p + off + 4 * i) = k i := by
  rw [writeWords_eq hf]
  -- the stores after the `i`-th do not reach its word
  match i with
  | 0 =>
    rw [load_store_of_disjoint _ _ (by simp), load_store_of_disjoint _ _ (by simp),
      load_store_of_disjoint _ _ (by simp)]
    exact load_store (by decide) _ _ _
  | 1 =>
    rw [load_store_of_disjoint _ _ (by simp), load_store_of_disjoint _ _ (by simp)]
    exact load_store (by decide) _ _ _
  | 2 =>
    rw [load_store_of_disjoint _ _ (by simp)]
    exact load_store (by decide) _ _ _
  | 3 => exact load_store (by decide) _ _ _

/-- **An IPv6 field holds what was assigned exactly when that is an IPv6 address with no
byte but the first.** -/
theorem readField_writeWords_iff (value : IPAddress) :
    ExactAssignment.readField 16
        (IPv6Header.writeWords field (some p) (IPv6Header.wordsOfBytes value) m) (p + off) =
        value.getAddressBytes ↔ ∃ x, value = .v6 (firstByteOnly x) := by
  set m' := IPv6Header.writeWords field (some p) (IPv6Header.wordsOfBytes value) m with hm'
  have hload : ∀ i : Fin 4, load 32 4 m' (p + off + 4 * i) =
      (value.getAddressBytes.getD i 0).setWidth 32 := fun i => load_writeWords hf _ m p i
  constructor
  · intro h
    cases value with
    | v4 b =>
      have hlen := length_of_readField h
      rw [IPAddress.getAddressBytes_v4, List.length_ofFn] at hlen
      omega
    | v6 b =>
      have hb : (fun i : Fin 16 => m' (p + off + i)) = b := List.ofFn_injective h
      refine ⟨m' (p + off), congrArg IPAddress.v6 (hb.symm.trans (eq_firstByteOnly fun i => ?_))⟩
      have hbi : m' (p + off + i) = b ⟨i, by omega⟩ := congrFun hb ⟨i, by omega⟩
      rw [hload i, hbi]
      exact congrArg (BitVec.setWidth 32) (getD_ofFn b (⟨i, by omega⟩ : Fin 16))
  · rintro ⟨x, rfl⟩
    refine congrArg List.ofFn (funext fun n => ?_)
    have hbyte := byteOf_load (w := 32) m' (p + off + 4 * (n / 4 : ℕ))
      (show (n : ℕ) % 4 < 4 by omega) (by decide)
    rw [show p + off + 4 * ((n : ℕ) / 4) + (n : ℕ) % 4 = p + off + n by omega,
      hload ⟨(n : ℕ) / 4, by omega⟩, byteOf_setWidth (by decide)] at hbyte
    have hget : (IPAddress.v6 (firstByteOnly x)).getAddressBytes.getD ((n : ℕ) / 4) 0 =
        firstByteOnly x ⟨(n : ℕ) / 4, by omega⟩ := getD_ofFn _ (⟨(n : ℕ) / 4, by omega⟩ : Fin 16)
    rw [← hbyte, hget]
    simp only [firstByteOnly, Fin.ext_iff, Fin.val_zero]
    by_cases hn : (n : ℕ) = 0
    · simp [hn]
    · by_cases hmod : (n : ℕ) % 4 = 0
      · rw [if_pos hmod, if_neg (by omega), if_neg hn]
      · rw [if_neg hmod, if_neg hn]

end Words

/-! ### The four setters -/

/-- **Which assignments arrive**: in every state of the object and the packet, an
assignment to an attached `IPHeader` arrives exactly for IPv4 addresses, and one to an
attached `IPv6Header` exactly for IPv6 addresses with no byte but the first. -/
theorem exactAssignment_iff (value : IPAddress) (m : Mem) {p : ℕ} {h4 : IPHeader}
    {h6 : IPv6Header} (hp4 : h4.m_ipHeader = some p) (hp6 : h6.m_ipv6Header = some p) :
    ((ExactAssignment 4 (p + 12) value m (h4.setSourceAddress value m) ↔ ∃ b, value = .v4 b) ∧
      (ExactAssignment 4 (p + 16) value m (h4.setDestinationAddress value m) ↔
        ∃ b, value = .v4 b)) ∧
    (ExactAssignment 16 (p + 8) value m (h6.setSourceAddress value m) ↔
      ∃ x, value = .v6 (firstByteOnly x)) ∧
    (ExactAssignment 16 (p + 24) value m (h6.setDestinationAddress value m) ↔
      ∃ x, value = .v6 (firstByteOnly x)) := by
  refine ⟨⟨?_, ?_⟩, ?_, ?_⟩
  · rw [IPHeader.setSourceAddress_eq_ok, hp4]
    exact (and_iff_left fun x hx => writeAddress_frame value m hx).trans
      (readField_writeAddress_iff value m (p + 12))
  · rw [IPHeader.setDestinationAddress_eq_ok, hp4]
    exact (and_iff_left fun x hx => writeAddress_frame value m hx).trans
      (readField_writeAddress_iff value m (p + 16))
  · rw [IPv6Header.setSourceAddress_eq_ok, hp6]
    exact (and_iff_left fun x hx => writeWords_frame isAddressField_srcAddr _ m p hx).trans
      (readField_writeWords_iff isAddressField_srcAddr m p value)
  · rw [IPv6Header.setDestinationAddress_eq_ok, hp6]
    exact (and_iff_left fun x hx => writeWords_frame isAddressField_dstAddr _ m p hx).trans
      (readField_writeWords_iff isAddressField_dstAddr m p value)

/-- `10.0.0.1` arrives in an IPv4 header. -/
theorem exactAssignment_ipv4 :
    ExactAssignment 4 (0 + 12) (.v4 ![10, 0, 0, 1]) (fun _ => 0)
      ((IPHeader.new.setUnmanagedHeader (some 0)).setSourceAddress (.v4 ![10, 0, 0, 1])
        fun _ => 0) :=
  have hp4 : (IPHeader.new.setUnmanagedHeader (some 0)).m_ipHeader = some 0 := rfl
  have hp6 : ((IPv6Header.new (fun _ => 0) fun _ => 0).setUnmanagedHeader (some 0)).m_ipv6Header =
      some 0 := rfl
  (exactAssignment_iff (.v4 ![10, 0, 0, 1]) (fun _ => 0) hp4 hp6).1.1.mpr ⟨_, rfl⟩

/-- **Assignments that do not arrive**: `::1` in an IPv4 header, and `2001:db8::1` in an
IPv6 header. -/
theorem not_exactAssignment_ipv6 :
    ¬ExactAssignment 4 (0 + 12) (.v6 ![0, 0, 0, 0, 0, 0, 0, 0, 0, 0, 0, 0, 0, 0, 0, 1])
        (fun _ => 0)
        ((IPHeader.new.setUnmanagedHeader (some 0)).setSourceAddress
          (.v6 ![0, 0, 0, 0, 0, 0, 0, 0, 0, 0, 0, 0, 0, 0, 0, 1]) fun _ => 0) ∧
      ¬ExactAssignment 16 (0 + 8)
        (.v6 ![0x20, 1, 0x0D, 0xB8, 0, 0, 0, 0, 0, 0, 0, 0, 0, 0, 0, 1]) (fun _ => 0)
        (((IPv6Header.new (fun _ => 0) fun _ => 0).setUnmanagedHeader (some 0)).setSourceAddress
          (.v6 ![0x20, 1, 0x0D, 0xB8, 0, 0, 0, 0, 0, 0, 0, 0, 0, 0, 0, 1]) fun _ => 0) := by
  refine ⟨fun h => ?_, fun h => ?_⟩
  · rw [IPHeader.setSourceAddress_eq_ok] at h
    exact absurd h.1 (by decide)
  · rw [IPv6Header.setSourceAddress_eq_ok] at h
    exact absurd h.1 (by decide)

end DivertNet
