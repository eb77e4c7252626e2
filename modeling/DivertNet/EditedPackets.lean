import DivertNet.AddressProperties
import DivertNet.HeaderAssignments
import DivertNet.ParsePacket
import DivertNet.SubmittedPacket

/-!
# Packets that are edited on the way

What the wrapper is for: a packet is received, parsed, edited through the properties of the header
objects, and sent. The header objects point into the buffer, so an assignment to a property is an
assignment to the packet.

`DivertNet.sends_edited` is the whole way, for any number of assignments to any properties of any
of the header objects in any order: the packet that is submitted has the length of the packet that
was parsed, in each field what the assignment that came last stores, and in every other bit what
it had.

An assignment through an object that is not `Valid` is ignored. What has to be known is that the
objects point to the packet parsed, and not to one from before, and that they still do when the
assignments are made: nothing pins the buffer after `ParsePacket`, so the collector must not have
moved it by then. Once they are made it may.

The setters of the addresses take an address of either family, and store its first four bytes,
`IPHeader` as one word and `IPv6Header` as four words of one byte each. So what they store are
fields of the diagram as well, of 32 and of 128 bits: `DivertNet.AddressProperty.write_eq_set`.
-/

namespace DivertNet

open LittleEndian WireField

/-! ### What can be assigned -/

namespace AddressProperty

/-- Its field, in the diagram of the header. -/
def field : AddressProperty → Field
  | ipv4Source => ⟨96, 32⟩
  | ipv4Destination => ⟨128, 32⟩
  | ipv6Source => ⟨64, 128⟩
  | ipv6Destination => ⟨192, 128⟩

/-- What an assignment stores in the field: the first four bytes of the address, whichever family
it is of, in one word or in one word each. -/
def stored (v : IPAddress) : (p : AddressProperty) → BitVec p.field.len
  | ipv4Source | ipv4Destination => byteSwap32 (IPHeader.addressWord v)
  | ipv6Source | ipv6Destination => IPv6Header.sentWords (IPv6Header.wordsOfBytes v)

/-- A word that is stored as it is, as a number in the diagram. -/
theorem store_eq_set (off : ℕ) (w : BitVec 32) (m : Mem) (a : ℕ) :
    store 4 w m (a + off) = Field.set ⟨8 * off, 32⟩ (byteSwap32 w) m a := by
  have hoff : off + 4 ≤ off + 4 := le_rfl
  have hswapped := (onWire_swapped32 off hoff).write_eq (byteSwap32 w) m a
  rw [id, BitVec.setWidth_eq] at hswapped
  rw [← hswapped]
  change _ = store 4 (byteSwap32 (byteSwap32 w)) m (a + off)
  rw [byteSwap32_byteSwap32]

/-- Four words one after the other, as one number. -/
theorem writeWords_eq_set {field : Fin 4 → HeaderProperty .ipv6 32} {off : ℕ}
    (hf : IsAddressField field off) (k : AddressWords) (m : Mem) (a : ℕ) :
    IPv6Header.writeWords field (some a) k m =
      Field.set ⟨8 * off, 128⟩ (IPv6Header.sentWords k) m a := by
  have hword : ∀ i w m, store 4 w m (a + off + 4 * i) =
      Field.set ⟨8 * off + 32 * i, 32⟩ (byteSwap32 w) m a := by
    intro i w m
    rw [Nat.add_assoc, store_eq_set, show 8 * (off + 4 * i) = 8 * off + 32 * i by omega]
  refine Eq.trans ?_ (Field.set_add (8 * off) 96 32 _ _ m a).symm
  refine Eq.trans ?_ (congrArg (fun m => Field.set _ _ m a)
    ((Field.set_add (8 * off) 64 32 _ _ m a).trans (congrArg (fun m => Field.set _ _ m a)
      (Field.set_add (8 * off) 32 32 _ _ m a)))).symm
  rw [writeWords_eq hf]
  exact (hword 3 _ _).trans (congrArg (fun m => Field.set _ _ m a) ((hword 2 _ _).trans
    (congrArg (fun m => Field.set _ _ m a) ((hword 1 _ _).trans
      (congrArg (fun m => Field.set _ _ m a) (hword 0 _ _))))))

/-- **What an assignment writes is its field**, as stored. -/
theorem write_eq_set (p : AddressProperty) (v : IPAddress) (m : Mem) (a : ℕ) :
    p.write v m a = p.field.set (p.stored v) m a := by
  cases p with
  | ipv4Source => exact store_eq_set 12 _ m a
  | ipv4Destination => exact store_eq_set 16 _ m a
  | ipv6Source => exact writeWords_eq_set isAddressField_srcAddr _ m a
  | ipv6Destination => exact writeWords_eq_set isAddressField_dstAddr _ m a

theorem numeric_ipv4_le (n : IPHeader.Numeric) :
    n.wire.field.start + n.wire.field.len ≤ 96 := by
  cases n <;> decide

theorem numeric_ipv6_le (n : IPv6Header.Numeric) :
    n.wire.field.start + n.wire.field.len ≤ 64 := by
  cases n <;> decide

/-- The fields that are numbers come before the addresses. -/
theorem numeric_before {k : HeaderKind} (n : NumericProperty k) {p : AddressProperty}
    (h : k = p.kind) : n.wire.field.start + n.wire.field.len ≤ p.field.start := by
  subst h
  cases p with
  | ipv4Source => exact numeric_ipv4_le n
  | ipv4Destination => exact (numeric_ipv4_le n).trans (by decide)
  | ipv6Source => exact numeric_ipv6_le n
  | ipv6Destination => exact (numeric_ipv6_le n).trans (by decide)

end AddressProperty

/-- **The properties of the six classes** that change a packet. -/
abbrev PacketProperty := (Σ k, NumericProperty k) ⊕ AddressProperty

namespace PacketProperty

/-- The class it is a property of. -/
def kind : PacketProperty → HeaderKind
  | .inl n => n.1
  | .inr p => p.kind

/-- What is assigned to it. -/
def Value : PacketProperty → Type
  | .inl n => BitVec n.2.wire.width
  | .inr _ => IPAddress

/-- Its field, in the diagram of the header. -/
def field : PacketProperty → Field
  | .inl n => n.2.wire.field
  | .inr p => p.field

/-- What an assignment stores in the field. -/
def stored : (p : PacketProperty) → p.Value → BitVec p.field.len
  | .inl n, v => n.2.stored v
  | .inr p, v => p.stored v

/-- **The setter**, through an object with this pointer: the memory, and what the objects keep of
addresses. -/
def assign (p : PacketProperty) (hdr : Option ℕ) (v : p.Value) (m : Mem) (c : AddressCells) :
    Except ClrException (Mem × AddressCells) :=
  match p with
  | .inl n => .ok (n.2.set hdr v m, c)
  | .inr p => p.set hdr c v m

/-- What it makes of the memory: with a header the field is set, and without one nothing is. -/
def effect (p : PacketProperty) (hdr : Option ℕ) (v : p.Value) (m : Mem) : Mem :=
  hdr.elim m (p.field.set (p.stored v) m)

@[simp] theorem effect_some (p : PacketProperty) (a : ℕ) (v : p.Value) (m : Mem) :
    p.effect (some a) v m = p.field.set (p.stored v) m a := rfl

/-- What the objects keep of addresses makes no difference to it, and it never throws. -/
theorem assign_eq_ok (p : PacketProperty) (hdr : Option ℕ) (v : p.Value) (m : Mem)
    (c : AddressCells) : ∃ c', p.assign hdr v m c = .ok (p.effect hdr v m, c') := by
  rcases p with n | p
  · refine ⟨c, ?_⟩
    cases hdr with
    | none => rfl
    | some a => exact congrArg (fun m => Except.ok (m, c)) (n.2.set_some a v m)
  · refine ⟨p.remember v c, (p.set_eq_ok hdr c v m).trans ?_⟩
    cases hdr with
    | none => rfl
    | some a => exact congrArg (fun m => Except.ok (m, p.remember v c)) (p.write_eq_set v m a)

/-- **No two properties of a class share a bit.** -/
theorem apart {p p' : PacketProperty} (hne : p ≠ p') (hkind : p.kind = p'.kind) :
    p.field.Apart p'.field := by
  rcases p with ⟨k, n⟩ | b
  · rcases p' with ⟨k', n'⟩ | b'
    · obtain rfl : k = k' := hkind
      have hn : n ≠ n' := by
        rintro rfl
        exact hne rfl
      exact NumericProperty.apart hn
    · exact Or.inl (AddressProperty.numeric_before n hkind)
  · rcases p' with ⟨k', n'⟩ | b'
    · exact Or.inr (AddressProperty.numeric_before n' hkind.symm)
    · have hb : b ≠ b' := by
        rintro rfl
        exact hne rfl
      -- the two addresses of a class
      revert hkind hb
      cases b <;> cases b' <;> decide

/-- **Every field lies in its header.** -/
theorem within (p : PacketProperty) : p.field.start + p.field.len ≤ 8 * p.kind.size := by
  rcases p with n | b
  · exact n.2.within
  · cases b <;> decide

end PacketProperty

/-! ### Assignments to the header objects -/

/-- An assignment to a property of one of the header objects. -/
abbrev Edit := Σ p : PacketProperty, p.Value

/-- **Assignments one after another**, through objects with these pointers. -/
def editAll (h : Headers) (l : List Edit) (m : Mem) (c : AddressCells) :
    Except ClrException (Mem × AddressCells) :=
  l.foldlM (fun s e => e.1.assign (h e.1.kind) e.2 s.1 s.2) (m, c)

/-- What they make of the memory. -/
def effects (h : Headers) (l : List Edit) (m : Mem) : Mem :=
  l.foldl (fun m e => e.1.effect (h e.1.kind) e.2 m) m

theorem editAll_eq_ok (h : Headers) (l : List Edit) (m : Mem) (c : AddressCells) :
    ∃ c', editAll h l m c = .ok (effects h l m, c') := by
  induction l generalizing m c with
  | nil => exact ⟨c, rfl⟩
  | cons e es ih =>
    obtain ⟨c', hc'⟩ := e.1.assign_eq_ok (h e.1.kind) e.2 m c
    rw [editAll, List.foldlM_cons, hc']
    exact ih _ c'

/-- **The headers do not overlap.** -/
def Headers.Disjoint (h : Headers) : Prop :=
  ∀ k k' a a', h k = some a → h k' = some a' → k ≠ k' → a + k.size ≤ a' ∨ a' + k'.size ≤ a

section Effects

variable {h : Headers} {f g : Field} {m : Mem} {a b size size' : ℕ}

/-- A field of one header is as before when another header is written to. -/
theorem get_set_of_disjoint (hf : f.start + f.len ≤ 8 * size) (hg : g.start + g.len ≤ 8 * size')
    (hdisjoint : a + size ≤ b ∨ b + size' ≤ a) (v : BitVec g.len) :
    f.get (g.set v m b) a = f.get m a := by
  refine Field.get_congr fun i hi => ?_
  have hlast : i < 8 * size := hi.2.trans_le hf
  rcases hdisjoint with hbefore | hafter
  · rw [bitAt, bitAt, Field.set_before _ _ _ (by omega)]
  · -- the bit belongs to the diagram of the other header as well, behind its fields
    have hbit : ∀ m : Mem, bitAt m a i = bitAt m b (8 * (a - b) + i) := by
      intro m
      rw [bitAt_add, Nat.add_sub_cancel' (by omega)]
    rw [hbit, hbit, Field.bitAt_set_of_not_has]
    rintro ⟨-, hlt⟩
    omega

/-- **Each field holds what was last assigned** to its property, or what it held before. -/
theorem get_effects (hdisjoint : h.Disjoint) {p : PacketProperty} (hp : h p.kind = some a)
    (l : List Edit) (m : Mem) :
    p.field.get (effects h l m) a =
      ((Cells.last p l).map p.stored).getD (p.field.get m a) := by
  refine Cells.get_foldl (fun m => p.field.get m a) p.stored
    (fun e m => e.1.effect (h e.1.kind) e.2 m) (fun v m => ?_) (fun q v m hne => ?_) l m
  · change p.field.get (p.effect (h p.kind) v m) a = _
    rw [hp, PacketProperty.effect_some, Field.get_set]
  · change p.field.get (q.effect (h q.kind) v m) a = _
    cases hq : h q.kind with
    | none => rfl
    | some b =>
      rw [PacketProperty.effect_some]
      by_cases hkind : p.kind = q.kind
      · obtain rfl : a = b := Option.some.inj (hp.symm.trans (hkind ▸ hq))
        exact Field.get_set_of_apart (PacketProperty.apart hne.symm hkind) _ _ _
      · exact get_set_of_disjoint p.within q.within (hdisjoint _ _ _ _ hp hq hkind) _

/-- A bit that a field changes is one of its own. -/
theorem covers_of_set_ne {v : BitVec f.len} {x j : ℕ} (hj : j < 8)
    (hne : (f.set v m a x).getLsbD j ≠ (m x).getLsbD j) : Covers f a x j := by
  by_cases hx : a ≤ x
  · refine ⟨hx, ?_⟩
    by_contra hout
    rw [getLsbD_eq_bitAt hx hj, getLsbD_eq_bitAt hx hj, Field.bitAt_set_of_not_has _ _ _ hout]
      at hne
    exact hne rfl
  · rw [Field.set_before _ _ _ (by omega)] at hne
    exact absurd rfl hne

/-- **Every other bit is as before.** -/
theorem getLsbD_effects {x j : ℕ} (hj : j < 8) (l : List Edit) (m : Mem)
    (hnot : ∀ e ∈ l, ∀ a, h e.1.kind = some a → ¬Covers e.1.field a x j) :
    (effects h l m x).getLsbD j = (m x).getLsbD j := by
  induction l generalizing m with
  | nil => rfl
  | cons e es ih =>
    rw [effects, List.foldl_cons]
    refine (ih _ fun e' he' => hnot e' (List.mem_cons_of_mem _ he')).trans ?_
    cases he : h e.1.kind with
    | none => rfl
    | some a =>
      rw [PacketProperty.effect_some]
      by_contra hne
      exact hnot e List.mem_cons_self a he (covers_of_set_ne hj hne)

end Effects

/-! ### The packet that is sent -/

/-- **The headers of a packet lie in it**, and do not overlap. -/
structure Dissector.Places (d : Dissector) (packet : List Byte) : Prop where
  inside : ∀ k o, d.headerAt packet k = some o → o + k.size ≤ packet.length
  disjoint : ∀ k k' o o', d.headerAt packet k = some o → d.headerAt packet k' = some o' →
    k ≠ k' → o + k.size ≤ o' ∨ o' + k'.size ≤ o

/-- **A packet after assignments** to its header objects: of the same length, with the values
last assigned in the fields, and with all other bits as they were. -/
structure Edited (d : Dissector) (l : List Edit) (p q : List Byte) : Prop where
  length_eq : q.length = p.length
  fields : ∀ (x : PacketProperty) o, d.headerAt p x.kind = some o →
    x.field.get (ofBytes q) o =
      ((Cells.last x l).map x.stored).getD (x.field.get (ofBytes p) o)
  others : ∀ i j, i < p.length → j < 8 →
    (∀ e ∈ l, ∀ o, d.headerAt p e.1.kind = some o → ¬Covers e.1.field o i j) →
      (q.getD i 0).getLsbD j = (p.getD i 0).getLsbD j

section Sent

variable {helper : ParseHelper} {d : Dissector} {h : Headers} {c : ParseCall} {r : ParseResult}
  {a : ManagedArray}

/-- **The header objects after a call** that passes all six, none of them stale, point to the
headers of the packet. -/
theorem headers_of_notStale (hfind : FindsHeaders helper d)
    (hr : parsePacket helper h c = .ok r) (hstale : NoStaleHeader d h c)
    (hall : ∀ k, c.passed k = true) : r.headers = c.location d := by
  have hrefers := (refersToParsed_iff_eq _).mp ((refersToParsed_parseNext_iff hfind).mpr hstale)
  have hnext : parseNext helper h c = r.headers := by rw [parseNext, hr]
  funext k
  rw [← hnext]
  exact hrefers ⟨r, hr⟩ k (hall k)

/-- **What the assignments make of the packet** in the buffer. -/
theorem edited_effects {n : ℕ} (hn : n ≤ a.bytes.length) (hplaces : d.Places (a.bytes.take n))
    (hh : ∀ k, h k = (d.headerAt (a.bytes.take n) k).map (a.base + ·)) (l : List Edit) :
    Edited d l (a.bytes.take n) (readBytes (effects h l a.memory) a.base n) := by
  have hlength : (a.bytes.take n).length = n := by rw [List.length_take, min_eq_left hn]
  have hpacket : a.bytes.take n = readBytes a.memory a.base n := (readBytes_memory a hn).symm
  have hdisjoint : h.Disjoint := by
    intro k k' b b' hb hb' hne
    rw [hh, Option.map_eq_some_iff] at hb hb'
    obtain ⟨o, ho, rfl⟩ := hb
    obtain ⟨o', ho', rfl⟩ := hb'
    have := hplaces.disjoint k k' o o' ho ho' hne
    omega
  refine ⟨?_, fun x o ho => ?_, fun i j hi hj hnot => ?_⟩
  · rw [length_readBytes, hlength]
  · have hinside := hplaces.inside x.kind o ho
    rw [hlength] at hinside
    have hx : h x.kind = some (a.base + o) := by rw [hh, ho, Option.map_some]
    have hbefore : x.field.get (ofBytes (a.bytes.take n)) o =
        x.field.get a.memory (a.base + o) := by
      rw [hpacket]
      exact Field.get_readBytes x.within hinside
    rw [Field.get_readBytes x.within hinside, get_effects hdisjoint hx, hbefore]
  · rw [hlength] at hi
    have hbyte : ∀ m, (readBytes m a.base n).getD i 0 = m (a.base + i) :=
      fun m => ofBytes_readBytes m a.base hi
    rw [hpacket] at hnot ⊢
    rw [hbyte, hbyte]
    refine getLsbD_effects hj l a.memory fun e he b hb => ?_
    rw [hh, hpacket, Option.map_eq_some_iff] at hb
    obtain ⟨o, ho, rfl⟩ := hb
    rintro ⟨hle, hhas⟩
    refine hnot e he o ho ⟨by omega, ?_⟩
    rwa [Nat.add_sub_add_left] at hhas

/-- **Parsing, editing and sending**: whatever the packet, as long as its headers lie in it side by
side, and whatever the assignments, made while the buffer is where it was parsed, all of them
succeed, and the packet that `Send` and `SendAsync` without a result object submit is the one
parsed with the fields as last assigned and everything else as it was. The buffer may have been
moved before it is sent. -/
theorem sends_edited (hfind : FindsHeaders helper d) (hr : parsePacket helper h c = .ok r)
    (hstale : NoStaleHeader d h c) (hall : ∀ k, c.passed k = true)
    (ha : c.packetBuffer = some a) (hn : c.packetLength.toNat ≤ a.bytes.length)
    (hplaces : d.Places (a.bytes.take c.packetLength.toNat)) {a' : ManagedArray}
    (hbytes : a'.bytes = a.bytes) (hstay : a'.base = a.base) (cells : AddressCells)
    (l : List Edit) :
    ∃ m cells' q, editAll r.headers l a'.memory cells = .ok (m, cells') ∧
      Edited d l (a.bytes.take c.packetLength.toNat) q ∧
      ∀ (t : TransferCall) (b : ManagedArray) (reply : TransferReply) (w : World),
        t.packetBuffer = some b → b.bytes = (a'.withMemory m).bytes →
          t.packetLength = c.packetLength →
            SubmitsPacket t q w (send t reply w) ∧
              SubmitsPacket t q w (sendAsync t none reply w) := by
  rw [← hbytes] at hn hplaces ⊢
  have hheaders : ∀ k, r.headers k =
      (d.headerAt (a'.bytes.take c.packetLength.toNat) k).map (a'.base + ·) := by
    intro k
    rw [headers_of_notStale hfind hr hstale hall, ParseCall.location, ha, hbytes, hstay]
    simp only [readBytes_memory a (hbytes ▸ hn)]
  obtain ⟨cells', hedit⟩ := editAll_eq_ok r.headers l a'.memory cells
  refine ⟨_, cells', _, hedit, edited_effects hn hplaces hheaders l,
    fun t b reply w ht hb hlength => ?_⟩
  generalize effects r.headers l a'.memory = m at hb
  have hlen : t.packetLength.toNat ≤ b.bytes.length := by
    rw [hb, ManagedArray.length_withMemory, hlength]
    exact hn
  have hpacket : t.packet b = readBytes m a'.base c.packetLength.toNat := by
    rw [TransferCall.packet, hlength, hb]
    exact ManagedArray.take_withMemory _ _ hn
  rw [← hpacket]
  exact ⟨submitsPacket_send reply w ht hlen, submitsPacket_sendAsync_none reply w ht hlen⟩

end Sent

/-! #### A segment for another host -/

/-- The segment is sent on to `10.0.0.2:8080`, with its time to live counted down. -/
def forward : List Edit :=
  [⟨.inr .ipv4Destination, IPAddress.v4 ![10, 0, 0, 2]⟩,
    ⟨.inl ⟨.tcp, TCPHeader.Numeric.destinationPort⟩, (8080 : BitVec 16)⟩,
    ⟨.inl ⟨.ip, IPHeader.Numeric.ttl⟩, (63 : BitVec 8)⟩]

theorem headerAt_tcpPacket (k : HeaderKind) :
    ipv4Dissector.headerAt tcpPacket.bytes k =
      match k with
      | .ip => some 0
      | .tcp => some 20
      | _ => none := by
  cases k <;> decide

theorem places_tcpPacket : ipv4Dissector.Places tcpPacket.bytes where
  inside k o ho := by
    rw [headerAt_tcpPacket] at ho
    cases k <;> cases ho <;> decide
  disjoint k k' o o' ho ho' hne := by
    rw [headerAt_tcpPacket] at ho ho'
    cases k <;> cases ho <;> cases k' <;> cases ho' <;> first | exact absurd rfl hne | decide

/-- The packet elsewhere. -/
def movedTcpPacket (m : Mem) : ManagedArray := { tcpPacket.withMemory m with base := 12288 }

/-- It is sent with these three changes, from where the collector moves it before. -/
theorem sends_forwarded :
    ∃ r, parsePacket ipv4Dissector.helper noHeaders (parseInto .headers tcpPacket) = .ok r ∧
      ∃ m cells' q,
        editAll r.headers forward tcpPacket.memory (.new (fun _ => 0) fun _ => 0) =
          .ok (m, cells') ∧
        Edited ipv4Dissector forward tcpPacket.bytes q ∧
        ∀ (t : TransferCall) (reply : TransferReply) (w : World),
          t.packetBuffer = some (movedTcpPacket m) → t.packetLength = 40 →
            SubmitsPacket t q w (send t reply w) ∧
              SubmitsPacket t q w (sendAsync t none reply w) := by
  have hstale : NoStaleHeader ipv4Dissector noHeaders (parseInto .headers tcpPacket) :=
    .inr (.inr fun _ _ => .inr rfl)
  obtain ⟨m, cells', q, hedit, hedited, hsends⟩ :=
    sends_edited (findsHeaders_helper ipv4Dissector) (h := noHeaders) rfl hstale (fun _ => rfl)
      rfl (by decide) places_tcpPacket rfl rfl (.new (fun _ => 0) fun _ => 0) forward
  exact ⟨_, rfl, m, cells', q, hedit, hedited,
    fun t reply w ht hlength => hsends t _ reply w ht rfl hlength⟩

end DivertNet
