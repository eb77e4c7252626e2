import Mathlib.Tactic.FinCases
import DivertNet.ParsePacket
import DivertNet.AddressProperties
import DivertNet.Library.Relocation

/-!
# Header objects and the moving collector

`Diversion::ParsePacket` pins the packet buffer with a `pin_ptr`, so that the collector
leaves the array alone while the native helper looks at it. The pin ends with the method;
the pointers that the method handed to the header objects do not. From then on every
property of a valid header object goes through an address nobody keeps up to date.

This file puts the two in one state, `DivertNet.Program`: the managed arrays, laid out in
memory, the header objects with the pointers they hold, and the calls of `ParsePacket` that
are under way, each of which pins its buffer. A call is three steps, so that the collector
can run in between:

| step | what happens |
|---|---|
| `enter` | the buffer is pinned and the address of its first element taken |
| `assign` | the helper finds the headers, the objects passed get their pointers |
| `leave` | the method returns and the pin ends |

Besides, properties are read and written, the program assigns elements of its arrays, and
the collector moves whatever is not pinned. What a call computes is still what
`DivertNet.parsePacket` says, `DivertNet.unmanagedHeader_assigned`.

The four addresses are properties with a memory of their own: a getter may hand out the object
of an earlier access, `DivertNet.AddressCells`. So a read of one of them can be wrong while the
pointer is right.

`DivertNet.everyState_headersAccessBuffers_iff` is the outcome. In every state of a run,
every valid header object reads and writes the buffer it was parsed from, and every address
read is the one in the buffer, exactly when

* no collection of the run moves a buffer some header object was parsed from,
* no call finds a header that reaches beyond its buffer, and
* what is kept for an address lets each read of it be right.
-/

namespace DivertNet

open LittleEndian Relocation Runs

variable {ι : Type}

/-! ### The state -/

/-- Where a header was found: in which array, and how far from its first element. -/
structure Origin (ι : Type) where
  buffer : ι
  offset : ℕ

/-- The pointer a valid header object holds, `UnmanagedHeader`. Its origin is kept for the
statements below; no method looks at it. -/
structure HeaderRef (ι : Type) where
  unmanagedHeader : ℕ
  origin : Origin ι

/-- A call of `ParsePacket` under way: its arguments, with the header object of each kind
that was passed, if any; the `pin_ptr`; and whether the headers have been handed over. -/
structure PinnedCall (ι : Type) where
  overload : ParseOverload
  passed : HeaderKind → Option ℕ
  buffer : ι
  packetLength : BitVec 32
  byteArray : ℕ
  assigned : Bool

/-- **The state**: the managed arrays, the header objects – any number of each kind, a
valid one holding a pointer – with the addresses kept by those that have any, and the calls
under way. An array allocated later is one that nothing refers to yet. -/
structure Program (ι : Type) where
  heap : Heap ι
  objects : ℕ → HeaderKind → Option (HeaderRef ι)
  cells : ℕ → AddressCells
  calls : List (PinnedCall ι)

/-- Nothing parsed yet. The words an `IPv6Header` remembers are whatever was in memory. -/
def Program.start (heap : Heap ι) (words : ℕ → AddressWords × AddressWords) : Program ι where
  heap := heap
  objects _ _ := none
  cells n := .new (words n).1 (words n).2
  calls := []

/-- **An array is pinned** while a call that was given it is under way. -/
def Program.Pinned (s : Program ι) (i : ι) : Prop := ∃ c ∈ s.calls, c.buffer = i

instance [DecidableEq ι] (s : Program ι) : DecidablePred s.Pinned :=
  fun i => inferInstanceAs (Decidable (∃ c ∈ s.calls, c.buffer = i))

/-! ### The steps of a call -/

namespace PinnedCall

/-- The arguments the native helper is called with. -/
def args (c : PinnedCall ι) (h : Heap ι) : ParseArgs where
  memory := h.mem
  base := c.byteArray
  packetLen := c.packetLength
  wantHeader _ := true
  wantData := c.overload == .withPacketData

/-- The headers the helper finds, as pointers to hand over. -/
def found (helper : ParseHelper) (c : PinnedCall ι) (h : Heap ι) :
    HeaderKind → Option (HeaderRef ι) := fun k =>
  ((helper (c.args h)).header k).map fun a => ⟨a, c.buffer, a - c.byteArray⟩

/-- What the objects passed hold before the call hands the headers over. -/
def held (c : PinnedCall ι) (s : Program ι) : HeaderKind → Option (HeaderRef ι) := fun k =>
  (c.passed k).bind (s.objects · k)

/-- What they hold after it. -/
def handOver (helper : ParseHelper) (c : PinnedCall ι) (s : Program ι) :
    HeaderKind → Option (HeaderRef ι) :=
  assignHeaders c.overload (fun k => (c.passed k).isSome) (c.found helper s.heap) (c.held s)

end PinnedCall

/-- The header objects once a call has handed its headers over. -/
def Program.assign (helper : ParseHelper) (s : Program ι) (c : PinnedCall ι) :
    ℕ → HeaderKind → Option (HeaderRef ι) := fun n k =>
  if c.passed k = some n then c.handOver helper s k else s.objects n k

/-- What happens in a run. Header objects are named by their kind and a number, calls under
way by their place in the list. -/
inductive ProgramAction (ι : Type) where
  /-- `ParsePacket` is called. -/
  | enter (overload : ParseOverload) (packetBuffer : Option ι) (packetLength : BitVec 32)
      (passed : HeaderKind → Option ℕ)
  /-- A call hands its headers over. -/
  | assign (call : ℕ)
  /-- A call returns. -/
  | leave (call : ℕ)
  /-- A property of a header object is read. -/
  | get (n : ℕ) (k : HeaderKind) {w : ℕ} (p : HeaderProperty k w)
  /-- A property of a header object is assigned. -/
  | set (n : ℕ) (k : HeaderKind) {w : ℕ} (p : HeaderProperty k w) (v : BitVec w)
  /-- An address of a header object is read. -/
  | getAddress (n : ℕ) (p : AddressProperty)
  /-- An address of a header object is assigned. -/
  | setAddress (n : ℕ) (p : AddressProperty) (v : IPAddress)
  /-- An element of an array is assigned. -/
  | setElement (i : ι) (index : ℕ) (b : Byte)
  /-- The collector runs and leaves the arrays as given. -/
  | collect (heap : Heap ι)

/-- The raw pointer behind a header object. -/
def Program.pointer (s : Program ι) (n : ℕ) (k : HeaderKind) : Option ℕ :=
  (s.objects n k).map (·.unmanagedHeader)

/-- A read of an address: what is returned, and what the object keeps then. -/
def Program.readAddress (s : Program ι) (n : ℕ) (p : AddressProperty) : IPAddress × AddressCells :=
  p.get (s.pointer n p.kind) (s.cells n) s.heap.mem

/-- **The transitions**, over any type of arrays for which it can be checked what a collection
may do. A null or an empty buffer makes `&packetBuffer[0]` throw, and so does an index out
of bounds; neither changes anything. -/
def Program.step [∀ (s : Program ι) heap, Decidable (Relocates s.Pinned s.heap heap)]
    (helper : ParseHelper) (s : Program ι) : ProgramAction ι → Option (Program ι)
  | .enter overload packetBuffer packetLength passed =>
    match packetBuffer with
    | none => some s
    | some i =>
      if s.heap.size i = 0 then some s
      else some { s with
        calls := ⟨overload, passed, i, packetLength, s.heap.base i, false⟩ :: s.calls }
  | .assign call =>
    match s.calls[call]? with
    | none => none
    | some c =>
      if c.assigned then none
      else some { s with
        objects := s.assign helper c
        calls := s.calls.set call { c with assigned := true } }
  -- the pin ends here, the pointers stay; the addresses kept do not notice any of this
  | .leave call =>
    match s.calls[call]? with
    | none => none
    | some c => if c.assigned then some { s with calls := s.calls.eraseIdx call } else none
  -- a getter changes nothing; what it returns is asked of the states
  | .get _ _ _ => some s
  | .set n k p v => some { s with heap := s.heap.withMem (p.set (s.pointer n k) v s.heap.mem) }
  | .getAddress n p =>
    some { s with cells := Function.update s.cells n (s.readAddress n p).2 }
  | .setAddress n p v =>
    match p.set (s.pointer n p.kind) (s.cells n) v s.heap.mem with
    | .ok (m, c) =>
      some { s with heap := s.heap.withMem m, cells := Function.update s.cells n c }
    | .error _ => some s
  | .setElement i index b =>
    if index < s.heap.size i then
      some { s with heap := s.heap.withMem (store 1 b s.heap.mem (s.heap.base i + index)) }
    else some s
  | .collect heap => if Relocates s.Pinned s.heap heap then some { s with heap := heap } else none

/-! ### What a call computes -/

section Call

variable {helper : ParseHelper} {d : Dissector} {s : Program ι} {c : PinnedCall ι}

/-- The bytes a call describes to the helper, while its buffer is where it was. -/
def PinnedCall.packet (c : PinnedCall ι) (h : Heap ι) : List Byte :=
  readBytes h.mem (h.base c.buffer) c.packetLength.toNat

/-- While the buffer stays, the headers found are those the packet contains, each at its
place in the buffer. -/
theorem found_eq (hfind : FindsHeaders helper d) {h : Heap ι}
    (hcur : c.byteArray = h.base c.buffer) (k : HeaderKind) :
    c.found helper h k = (d.headerAt (c.packet h) k).map fun off =>
      ⟨h.base c.buffer + off, c.buffer, off⟩ := by
  rw [PinnedCall.found, hfind]
  simp only [PinnedCall.args, ParseArgs.packet, if_true, Option.map_map, hcur]
  refine congrArg (Option.map · _) (funext fun off => ?_)
  simp

/-- **What an object holds after a call**: a header just found, if the object was passed
and there is one, or else what it held before. -/
theorem assign_eq_some {n : ℕ} {k : HeaderKind} {r : HeaderRef ι}
    (hr : s.assign helper c n k = some r) :
    c.passed k = some n ∧ c.found helper s.heap k = some r ∨ s.objects n k = some r := by
  rw [Program.assign] at hr
  split at hr
  · rename_i hpass
    have hheld : c.held s k = s.objects n k := by simp [PinnedCall.held, hpass]
    simp only [PinnedCall.handOver, assignHeaders, hpass, hheld] at hr
    split at hr <;> split at hr
    exacts [Or.inl ⟨hpass, hr⟩, Or.inr hr, Or.inl ⟨hpass, hr⟩, Or.inr hr]
  · exact Or.inr hr

/-- An object passed for a kind that is found gets the header found. -/
theorem assign_of_found {n : ℕ} {k : HeaderKind} {r : HeaderRef ι} (hpass : c.passed k = some n)
    (hr : c.found helper s.heap k = some r) : s.assign helper c n k = some r := by
  rw [Program.assign, if_pos hpass, PinnedCall.handOver]
  rcases c.overload with _ | _ <;> simp [assignHeaders, hpass, hr]

/-- **What the three steps compute is what `parsePacket` says**, for the array as it is when
the headers are handed over, and for the pointers of the objects passed. -/
theorem unmanagedHeader_assigned (hfind : FindsHeaders helper d)
    (hcur : c.byteArray = s.heap.base c.buffer) {a : ManagedArray}
    (hbase : a.base = s.heap.base c.buffer) (hbytes : a.bytes = s.heap.contents c.buffer)
    (hne : a.bytes ≠ []) (hlen : c.packetLength.toNat ≤ a.bytes.length) :
    (fun k => (c.handOver helper s k).map (·.unmanagedHeader)) =
      parseNext helper (fun k => (c.held s k).map (·.unmanagedHeader))
        { overload := c.overload, packetBuffer := some a, packetLength := c.packetLength
          passed := fun k => (c.passed k).isSome } := by
  set held : Headers := fun k => (c.held s k).map (·.unmanagedHeader)
  set call : ParseCall := ParseCall.mk c.overload (some a) c.packetLength fun k =>
    (c.passed k).isSome
  have hpacket : readBytes a.memory a.base c.packetLength.toNat = c.packet s.heap := by
    rw [readBytes_memory a hlen, hbytes]
    exact (s.heap.readBytes_base (by simpa [hbytes] using hlen)).symm
  cases hp : parsePacket helper held call with
  | error e => exact absurd (parsePacket_error_iff.mp ⟨e, hp⟩ a rfl) hne
  | ok r =>
    rw [parseNext, hp]
    simp only
    rw [parsePacket_headers hfind hp]
    funext k
    rw [PinnedCall.handOver, map_assignHeaders]
    refine congrArg (assignHeaders _ _ · held k) (funext fun k => ?_)
    rw [found_eq hfind hcur, Option.map_map, ParseCall.location]
    simp only [call]
    rw [hpacket, hbase]
    rfl

end Call

/-! ### Accessing the buffer -/

section Access

variable {helper : ParseHelper} {d : Dissector} {s : Program ι}

/-- **A header object accesses the buffer it was parsed from**: its pointer lies inside the
array; what a property reads is what it reads in the elements of the array, at the place
where the header was found; what it writes is written there, and to no other array. So is an
address assigned; what is read of an address depends on more than the pointer. -/
structure AccessesBuffer (h : Heap ι) (k : HeaderKind) (r : HeaderRef ι) : Prop where
  inside : h.base r.origin.buffer ≤ r.unmanagedHeader ∧
    r.unmanagedHeader + k.size ≤ h.base r.origin.buffer + h.size r.origin.buffer
  reads : ∀ {w : ℕ} (p : HeaderProperty k w), p.get (some r.unmanagedHeader) h.mem =
    p.read (ofBytes (h.contents r.origin.buffer)) r.origin.offset
  writes : ∀ {w : ℕ} (p : HeaderProperty k w) (v : BitVec w),
    (h.withMem (p.set (some r.unmanagedHeader) v h.mem)).contents r.origin.buffer =
      readBytes (p.write v (ofBytes (h.contents r.origin.buffer)) r.origin.offset) 0
        (h.size r.origin.buffer)
  spares : ∀ {w : ℕ} (p : HeaderProperty k w) (v : BitVec w) i, i ≠ r.origin.buffer →
    (h.withMem (p.set (some r.unmanagedHeader) v h.mem)).contents i = h.contents i
  assigns : ∀ p : AddressProperty, p.kind = k → ∀ (v : IPAddress) (c : AddressCells), ∃ m c',
    p.set (some r.unmanagedHeader) c v h.mem = .ok (m, c') ∧
      (h.withMem m).contents r.origin.buffer =
        readBytes (p.write v (ofBytes (h.contents r.origin.buffer)) r.origin.offset) 0
          (h.size r.origin.buffer) ∧
      ∀ i, i ≠ r.origin.buffer → (h.withMem m).contents i = h.contents i

/-- The structure a header object points to is not empty. -/
theorem HeaderKind.size_pos (k : HeaderKind) : 0 < k.size := by cases k <;> decide

/-- **It does exactly when its pointer is the address the header has now.** -/
theorem accessesBuffer_iff {h : Heap ι} {k : HeaderKind} {r : HeaderRef ι} :
    AccessesBuffer h k r ↔
      Points h r.origin.buffer r.origin.offset k.size r.unmanagedHeader := by
  constructor
  · intro hacc
    refine points_of_pokes k.size_pos hacc.inside fun b => ?_
    -- the property that is the first byte of the structure
    exact hacc.writes (.byte 0 k.size_pos) b
  · intro hp
    exact {
      inside := hp.inside
      reads := fun p => hp.read_eq p.read_congr
      writes := fun p v => hp.contents_write (p.write_congr v) (p.write_frame v)
      spares := fun p v i hi => hp.contents_write_of_ne (p.write_frame v) hi
      assigns := by
        rintro p rfl v c
        refine ⟨_, _, p.set_eq_ok _ c v _, ?_, fun i hi => ?_⟩
        · exact hp.contents_write (p.write_congr v) (p.write_frame v)
        · exact hp.contents_write_of_ne (p.write_frame v) hi }

/-- Every valid header object accesses the buffer it was parsed from. -/
def Program.HeadersAccessBuffers (s : Program ι) : Prop :=
  ∀ n k r, s.objects n k = some r → AccessesBuffer s.heap k r

/-- **No step takes a buffer from under its headers**: a collection leaves in place every
array some header object was parsed from, and a call that hands its headers over has found
none that reaches beyond the end of its buffer. -/
def KeepsHeaders (d : Dissector) (s : Program ι) : ProgramAction ι → Prop
  | .collect heap => ∀ n k r, s.objects n k = some r →
      heap.base r.origin.buffer = s.heap.base r.origin.buffer
  | .assign call => ∀ c, s.calls[call]? = some c → ∀ k n off, c.passed k = some n →
      d.headerAt (c.packet s.heap) k = some off → off + k.size ≤ s.heap.size c.buffer
  | _ => True

/-- **An address read is the one in the buffer** the header object was parsed from, where the
header was found. -/
def ReadsAddress (s : Program ι) : ProgramAction ι → Prop
  | .getAddress n p => ∀ r, s.objects n p.kind = some r →
      (s.readAddress n p).1 = p.decode (ofBytes (s.heap.contents r.origin.buffer)) r.origin.offset
  | _ => True

/-- **An address read is one that will be right**, by what the header object keeps for it and
what the buffer holds. -/
def FreshAddress (s : Program ι) : ProgramAction ι → Prop
  | .getAddress n p => ∀ r, s.objects n p.kind = some r →
      p.Fresh (s.cells n) (ofBytes (s.heap.contents r.origin.buffer)) r.origin.offset
  | _ => True

/-- A dissector that finds headers inside the packet only. -/
def Dissector.Within (d : Dissector) : Prop :=
  ∀ p k off, d.headerAt p k = some off → off + k.size ≤ p.length

theorem within_ipv4Dissector : ipv4Dissector.Within := by
  intro p k off hoff
  cases k <;> simp only [ipv4Dissector, Option.ite_none_right_eq_some, Option.some.injEq,
    reduceCtorEq, HeaderKind.size] at hoff ⊢ <;> omega

/-- A call whose packet ends with its buffer, or before, finds no header beyond it. -/
theorem keepsHeaders_assign (hd : d.Within) {call : ℕ}
    (hlen : ∀ c ∈ s.calls, c.packetLength.toNat ≤ s.heap.size c.buffer) :
    KeepsHeaders d s (.assign call) := by
  intro c hc k n off _ hoff
  refine (hd _ k off hoff).trans ?_
  rw [PinnedCall.packet, length_readBytes]
  exact hlen c (List.mem_of_getElem? hc)

/-- What holds as long as no step does: every pointer is the address its header has now, and
every call under way has the current address of its buffer. -/
structure Program.Current (s : Program ι) : Prop where
  points : ∀ n k r, s.objects n k = some r →
    Points s.heap r.origin.buffer r.origin.offset k.size r.unmanagedHeader
  byteArray : ∀ c ∈ s.calls, c.byteArray = s.heap.base c.buffer

theorem Program.Current.headersAccessBuffers (h : s.Current) :
    s.HeadersAccessBuffers :=
  fun n k r hr => accessesBuffer_iff.mpr (h.points n k r hr)

theorem Program.current_start (heap : Heap ι) (words : ℕ → AddressWords × AddressWords) :
    (Program.start heap words).Current where
  points _ _ _ hr := by cases hr
  byteArray _ hc := by cases hc

/-- Storing to memory moves nothing, whatever is kept then. -/
theorem Program.Current.withMem (h : s.Current) (m : Mem) (cells : ℕ → AddressCells) :
    Program.Current { s with heap := s.heap.withMem m, cells := cells } where
  points := h.points
  byteArray := h.byteArray

/-- Handing headers over keeps the pointers current if the headers found lie inside the
buffer. -/
theorem Program.Current.assign (hfind : FindsHeaders helper d) (h : s.Current) {call : ℕ}
    {c : PinnedCall ι} (hc : s.calls[call]? = some c)
    (hin : ∀ k n off, c.passed k = some n → d.headerAt (c.packet s.heap) k = some off →
      off + k.size ≤ s.heap.size c.buffer) :
    Program.Current { s with
      objects := s.assign helper c, calls := s.calls.set call { c with assigned := true } } where
  points n k r hr := by
    -- a pointer just handed over, or one that was there before
    rcases assign_eq_some hr with ⟨hpass, hfound⟩ | hold
    · have hcur : c.byteArray = s.heap.base c.buffer :=
        h.byteArray c (List.mem_of_getElem? hc)
      rw [found_eq hfind hcur] at hfound
      obtain ⟨off, hoff, rfl⟩ := Option.map_eq_some_iff.mp hfound
      exact ⟨rfl, hin k n off hpass hoff⟩
    · exact h.points n k r hold
  byteArray c' hc' := by
    rcases List.mem_or_eq_of_mem_set hc' with hmem | rfl
    · exact h.byteArray c' hmem
    · exact h.byteArray c (List.mem_of_getElem? hc)

/-- A collection keeps the pointers current if it leaves their buffers in place; the buffers
of the calls under way are pinned. -/
theorem Program.Current.collect (h : s.Current) {heap : Heap ι}
    (hr : Relocates s.Pinned s.heap heap)
    (hstay : ∀ n k r, s.objects n k = some r →
      heap.base r.origin.buffer = s.heap.base r.origin.buffer) :
    Program.Current { s with heap := heap } where
  points n k r hk := (hr.points_iff (h.points n k r hk)).mpr (hstay n k r hk)
  byteArray c hc := (h.byteArray c hc).trans (hr.1 c.buffer ⟨c, hc, rfl⟩).symm

/-- With current pointers, an address read is right exactly when it is one that will be. -/
theorem readsAddress_iff (h : s.Current) (hkept : ∀ n, (s.cells n).Kept) (a : ProgramAction ι) :
    ReadsAddress s a ↔ FreshAddress s a := by
  cases a with
  | getAddress n p =>
    refine forall_congr' fun r => imp_congr_right fun hr => ?_
    have hagree := (h.points n p.kind r hr).agree
    rw [Program.readAddress, Program.pointer, hr, Option.map_some,
      ← AddressProperty.decode_congr hagree, ← AddressProperty.fresh_congr hagree]
    exact p.get_eq_decode_iff (hkept n) _ _
  | _ => exact Iff.rfl

end Access

/-! ### One step -/

section Step

variable [∀ (s : Program ι) heap, Decidable (Relocates s.Pinned s.heap heap)]
  {helper : ParseHelper} {d : Dissector} {s t : Program ι}

theorem step_assign {call : ℕ} (ht : s.step helper (.assign call) = some t) :
    ∃ c, s.calls[call]? = some c ∧ t = { s with
      objects := s.assign helper c, calls := s.calls.set call { c with assigned := true } } := by
  simp only [Program.step] at ht
  split at ht
  · cases ht
  · rename_i c hc
    split at ht
    · cases ht
    · exact ⟨c, hc, (Option.some.inj ht).symm⟩

theorem step_leave {call : ℕ} (ht : s.step helper (.leave call) = some t) :
    t = { s with calls := s.calls.eraseIdx call } := by
  simp only [Program.step] at ht
  split at ht
  · cases ht
  · split at ht
    · exact (Option.some.inj ht).symm
    · cases ht

theorem step_enter {o : ParseOverload} {b : Option ι} {n : BitVec 32} {p : HeaderKind → Option ℕ}
    (ht : s.step helper (.enter o b n p) = some t) :
    t = s ∨ ∃ i, b = some i ∧
      t = { s with calls := ⟨o, p, i, n, s.heap.base i, false⟩ :: s.calls } := by
  simp only [Program.step] at ht
  split at ht
  · exact Or.inl (Option.some.inj ht).symm
  · rename_i i
    split at ht
    · exact Or.inl (Option.some.inj ht).symm
    · exact Or.inr ⟨i, rfl, (Option.some.inj ht).symm⟩

theorem step_setAddress {n : ℕ} {p : AddressProperty} {v : IPAddress}
    (ht : s.step helper (.setAddress n p v) = some t) :
    ∃ m, t = { s with
      heap := s.heap.withMem m
      cells := Function.update s.cells n (p.remember v (s.cells n)) } := by
  simp only [Program.step, AddressProperty.set_eq_ok] at ht
  exact ⟨_, (Option.some.inj ht).symm⟩

theorem step_setElement {i : ι} {index : ℕ} {b : Byte}
    (ht : s.step helper (.setElement i index b) = some t) :
    t = s ∨ ∃ m, t = { s with heap := s.heap.withMem m } := by
  simp only [Program.step] at ht
  split at ht
  · exact Or.inr ⟨_, (Option.some.inj ht).symm⟩
  · exact Or.inl (Option.some.inj ht).symm

theorem step_collect {heap : Heap ι} (ht : s.step helper (.collect heap) = some t) :
    Relocates s.Pinned s.heap heap ∧ t = { s with heap := heap } := by
  simp only [Program.step] at ht
  split at ht
  · exact ⟨‹_›, (Option.some.inj ht).symm⟩
  · cases ht

/-- The collector may do whatever respects the pins. -/
theorem step_collect_of_relocates {heap : Heap ι} (hr : Relocates s.Pinned s.heap heap) :
    s.step helper (.collect heap) = some { s with heap := heap } := by
  rw [Program.step, if_pos hr]

/-- **One step**: what keeps the headers keeps the pointers current. -/
theorem current_step (hfind : FindsHeaders helper d) {a : ProgramAction ι} (h : s.Current)
    (hkeep : KeepsHeaders d s a) (ht : s.step helper a = some t) : t.Current := by
  cases a with
  | enter o b n p =>
    obtain rfl | ⟨i, -, rfl⟩ := step_enter ht
    · exact h
    · refine ⟨h.points, fun c hc => ?_⟩
      obtain rfl | hmem := List.mem_cons.mp hc
      · rfl
      · exact h.byteArray c hmem
  | assign call =>
    obtain ⟨c, hc, rfl⟩ := step_assign ht
    exact h.assign hfind hc (hkeep c hc)
  | leave call =>
    obtain rfl := step_leave ht
    exact ⟨h.points, fun c hc => h.byteArray c (List.mem_of_mem_eraseIdx hc)⟩
  | get n k p =>
    obtain rfl : s = t := Option.some.inj ht
    exact h
  | set n k p v =>
    obtain rfl := Option.some.inj ht
    exact h.withMem _ _
  | getAddress n p =>
    obtain rfl := Option.some.inj ht
    exact ⟨h.points, h.byteArray⟩
  | setAddress n p v =>
    obtain ⟨m, rfl⟩ := step_setAddress ht
    exact h.withMem m _
  | setElement i index b =>
    obtain rfl | ⟨m, rfl⟩ := step_setElement ht
    · exact h
    · exact h.withMem m _
  | collect heap =>
    obtain ⟨hr, rfl⟩ := step_collect ht
    exact h.collect hr hkeep

/-- A change of what one pair of objects keeps. -/
theorem kept_update {cells : ℕ → AddressCells} (h : ∀ n, (cells n).Kept) (n : ℕ)
    {c : AddressCells} (hc : c.Kept) (i : ℕ) : (Function.update cells n c i).Kept := by
  by_cases hi : i = n
  · subst hi
    rwa [Function.update_self]
  · rw [Function.update_of_ne hi]
    exact h i

/-- **One step, of what is kept**: an address kept stays one that was read or assigned. -/
theorem kept_step {a : ProgramAction ι} (h : ∀ n, (s.cells n).Kept)
    (ht : s.step helper a = some t) : ∀ n, (t.cells n).Kept := by
  cases a with
  | enter o b n p =>
    obtain rfl | ⟨i, -, rfl⟩ := step_enter ht <;> exact h
  | assign call =>
    obtain ⟨c, -, rfl⟩ := step_assign ht
    exact h
  | leave call =>
    obtain rfl := step_leave ht
    exact h
  | get n k p =>
    obtain rfl : s = t := Option.some.inj ht
    exact h
  | set n k p v =>
    obtain rfl := Option.some.inj ht
    exact h
  | getAddress n p =>
    obtain rfl := Option.some.inj ht
    exact kept_update h n (p.kept_get _ (h n) _)
  | setAddress n p v =>
    obtain ⟨m, rfl⟩ := step_setAddress ht
    exact kept_update h n (p.kept_remember v (h n))
  | setElement i index b =>
    obtain rfl | ⟨m, rfl⟩ := step_setElement ht <;> exact h
  | collect heap =>
    obtain ⟨-, rfl⟩ := step_collect ht
    exact h

/-- **And nothing else does**: a step into a state in which all headers access their buffers
has kept them. -/
theorem keepsHeaders_of_step (hfind : FindsHeaders helper d) {a : ProgramAction ι}
    (h : s.Current) (ht : s.step helper a = some t) (hacc : t.HeadersAccessBuffers) :
    KeepsHeaders d s a := by
  cases a with
  | assign call =>
    intro c hc k n off hpass hoff
    obtain ⟨c', hc', rfl⟩ := step_assign ht
    obtain rfl : c = c' := Option.some.inj (hc.symm.trans hc')
    have hcur : c.byteArray = s.heap.base c.buffer := h.byteArray c (List.mem_of_getElem? hc)
    have hfound : c.found helper s.heap k =
        some ⟨s.heap.base c.buffer + off, c.buffer, off⟩ := by
      rw [found_eq hfind hcur, hoff]
      rfl
    exact (accessesBuffer_iff.mp (hacc n k _ (assign_of_found hpass hfound))).2
  | collect heap =>
    intro n k r hk
    obtain ⟨hr, rfl⟩ := step_collect ht
    exact (hr.points_iff (h.points n k r hk)).mp (accessesBuffer_iff.mp (hacc n k r hk))
  | _ => trivial

end Step

/-! ### All runs -/

/-- **The header objects along any run**: in every state each valid header object accesses
the buffer it was parsed from, and every address read is the one in that buffer, exactly when no
step of the run takes a buffer from under its headers, and no read of an address is one that will
be wrong. -/
theorem everyState_headersAccessBuffers_iff
    [∀ (s : Program ι) heap, Decidable (Relocates s.Pinned s.heap heap)] {helper : ParseHelper}
    {d : Dissector} (hfind : FindsHeaders helper d) (heap : Heap ι)
    (words : ℕ → AddressWords × AddressWords) (l : List (ProgramAction ι)) :
    EveryState (Program.step helper) Program.HeadersAccessBuffers (.start heap words) l ∧
        EveryStep (Program.step helper) (fun s a _ => ReadsAddress s a) (.start heap words) l ↔
      EveryStep (Program.step helper) (fun s a _ => KeepsHeaders d s a ∧ FreshAddress s a)
        (.start heap words) l := by
  have hcurrent : ∀ (s : Program ι) a t, s.Current → KeepsHeaders d s a →
      s.step helper a = some t → t.Current := fun s a t h hkeep ht => current_step hfind h hkeep ht
  have hstart := Program.current_start heap words
  rw [everyStep_and]
  refine (and_congr_left' ?_).trans (and_congr_right fun hkeep => ?_)
  · refine everyState_iff_everyStep (fun s h => h.headersAccessBuffers) hcurrent ?_ hstart l
    exact fun s a t h ht hacc => keepsHeaders_of_step hfind h ht hacc
  · refine everyStep_congr_of_invariant (I := fun s => ∀ n, (s.cells n).Kept) ?_ ?_
      (fun n => AddressCells.kept_new _ _) (everyState_of_guard hcurrent hstart hkeep)
    · exact fun s a t hkept h _ => readsAddress_iff h hkept a
    · exact fun s a t hkept _ _ ht => kept_step hkept ht

/-! ### A call that nothing interrupts -/

section ParseSteps

variable [∀ (s : Program ι) heap, Decidable (Relocates s.Pinned s.heap heap)]
  {helper : ParseHelper} {d : Dissector} {s : Program ι} {o : ParseOverload} {i : ι}
  {n : BitVec 32} {passed : HeaderKind → Option ℕ}

/-- A call from its beginning to its end. -/
def parseSteps (o : ParseOverload) (i : ι) (n : BitVec 32) (passed : HeaderKind → Option ℕ) :
    List (ProgramAction ι) :=
  [.enter o (some i) n passed, .assign 0, .leave 0]

/-- It hands over the headers, and pins nothing any more. -/
theorem run_parseSteps (hi : s.heap.size i ≠ 0) :
    run (Program.step helper) s (parseSteps o i n passed) = some { s with
      objects := s.assign helper ⟨o, passed, i, n, s.heap.base i, false⟩ } := by
  simp only [parseSteps, run_cons, Program.step, hi, if_false, Option.bind_some]
  rfl

/-- It keeps the headers if its packet ends with its buffer, or before. -/
theorem everyStep_parseSteps (hd : d.Within) (hn : n.toNat ≤ s.heap.size i)
    (hcalls : s.calls = []) :
    EveryStep (Program.step helper) (fun s a _ => KeepsHeaders d s a ∧ FreshAddress s a) s
      (parseSteps o i n passed) := by
  refine everyStep_cons.mpr fun t ht =>
    ⟨⟨trivial, trivial⟩, everyStep_cons.mpr fun u hu => ⟨⟨?_, trivial⟩, ?_⟩⟩
  · refine keepsHeaders_assign hd fun c hc => ?_
    obtain rfl | ⟨j, hj, rfl⟩ := step_enter ht
    · rw [hcalls] at hc
      cases hc
    · obtain rfl : i = j := Option.some.inj hj
      obtain rfl := List.mem_singleton.mp (hcalls ▸ hc)
      exact hn
  · exact everyStep_cons.mpr fun _ _ => ⟨⟨trivial, trivial⟩, everyStep_nil⟩

end ParseSteps

/-! ### A packet that is moved -/

/-- The TCP packet and the UDP packet of before, at the addresses given. -/
def twoPackets (b₀ b₁ : ℕ) (h : b₀ + 40 ≤ b₁ ∨ b₁ + 28 ≤ b₀ := by decide) : Heap (Fin 2) :=
  .ofContents ![b₀, b₁] ![tcpPacket.bytes, udpPacket.bytes] fun i j hij => by
    fin_cases i <;> fin_cases j
    exacts [absurd rfl hij, h, h.symm, absurd rfl hij]

/-- Parsing the TCP packet into the first object of each kind. -/
def parseTcpPacket : List (ProgramAction (Fin 2)) := parseSteps .headers 0 40 fun _ => some 0

/-- The same, under way: the array is pinned where it is. -/
def tcpPacketCall : PinnedCall (Fin 2) :=
  ⟨.headers, fun _ => some 0, 0, 40, 4096, false⟩

/-- The program before it. -/
def twoPacketsProgram : Program (Fin 2) :=
  .start (twoPackets 4096 8192) fun _ => (fun _ => 0, fun _ => 0)

/-- The state after it. -/
def parsedTcpPacket : Program (Fin 2) where
  heap := twoPackets 4096 8192
  objects := twoPacketsProgram.assign ipv4Dissector.helper tcpPacketCall
  cells := twoPacketsProgram.cells
  calls := []

theorem run_parseTcpPacket :
    run (Program.step ipv4Dissector.helper) twoPacketsProgram parseTcpPacket =
      some parsedTcpPacket :=
  run_parseSteps (by decide)

/-- What the headers were parsed from is the array passed. -/
theorem origin_parsedTcpPacket {n : ℕ} {k : HeaderKind} {r : HeaderRef (Fin 2)}
    (hr : parsedTcpPacket.objects n k = some r) :
    ∃ off, ipv4Dissector.headerAt tcpPacket.bytes k = some off ∧ r = ⟨4096 + off, 0, off⟩ := by
  rcases assign_eq_some hr with ⟨-, hfound⟩ | hold
  · have hpacket : tcpPacketCall.packet (twoPackets 4096 8192) = tcpPacket.bytes :=
      Heap.contents_ofContents 0
    rw [found_eq (findsHeaders_helper _) rfl] at hfound
    obtain ⟨off, hoff, rfl⟩ := Option.map_eq_some_iff.mp hfound
    exact ⟨off, hpacket ▸ hoff, rfl⟩
  · cases hold

/-- A run that meets the condition: the packet stays and the other array moves, before the source
of the packet is read and a port changed. -/
theorem everyState_headersAccessBuffers_unmoved :
    EveryState (Program.step ipv4Dissector.helper) Program.HeadersAccessBuffers twoPacketsProgram
        (parseTcpPacket ++ [.collect (twoPackets 4096 12288), .getAddress 0 .ipv4Source,
          .set 0 .tcp TCPHeader.destinationPort 443]) ∧
      EveryStep (Program.step ipv4Dissector.helper) (fun s a _ => ReadsAddress s a)
        twoPacketsProgram
        (parseTcpPacket ++ [.collect (twoPackets 4096 12288), .getAddress 0 .ipv4Source,
          .set 0 .tcp TCPHeader.destinationPort 443]) := by
  refine (everyState_headersAccessBuffers_iff (findsHeaders_helper _) _ _ _).mpr ?_
  refine everyStep_append.mpr ⟨everyStep_parseSteps within_ipv4Dissector (by decide) rfl, ?_⟩
  intro s hs
  obtain rfl : parsedTcpPacket = s := Option.some.inj (run_parseTcpPacket.symm.trans hs)
  refine everyStep_cons.mpr fun t ht => ⟨⟨fun n k r hr => ?_, trivial⟩, ?_⟩
  · obtain ⟨off, -, rfl⟩ := origin_parsedTcpPacket hr
    rfl
  · obtain ⟨-, rfl⟩ := step_collect ht
    refine everyStep_cons.mpr fun u _ => ⟨⟨trivial, fun r hr => ?_⟩, ?_⟩
    · have hip : parsedTcpPacket.objects 0 .ip = some r := hr
      obtain ⟨off, hoff, rfl⟩ := origin_parsedTcpPacket hip
      obtain rfl : 0 = off := Option.some.inj hoff
      have hcontents : (twoPackets 4096 12288).contents 0 = tcpPacket.bytes :=
        Heap.contents_ofContents 0
      simp only [hcontents]
      -- no address has been read before, and the source is not zero
      exact ⟨fun _ => ⟨_, rfl⟩, fun _ => by decide⟩
    · exact everyStep_cons.mpr fun _ _ => ⟨⟨trivial, trivial⟩, everyStep_nil⟩

/-- **A moved packet**: the call has returned, the array moves, and the valid TCP header
points to where it was. -/
theorem not_everyState_headersAccessBuffers :
    ¬EveryState (Program.step ipv4Dissector.helper) Program.HeadersAccessBuffers
      twoPacketsProgram (parseTcpPacket ++ [.collect (twoPackets 12288 8192)]) := by
  intro h
  have hmove : Relocates parsedTcpPacket.Pinned parsedTcpPacket.heap (twoPackets 12288 8192) :=
    Heap.relocates_ofContents fun i ⟨c, hc, _⟩ => by cases hc
  have hcollect : parsedTcpPacket.step ipv4Dissector.helper (.collect (twoPackets 12288 8192)) =
      some { parsedTcpPacket with heap := twoPackets 12288 8192 } :=
    step_collect_of_relocates hmove
  have hpacket : tcpPacketCall.packet (twoPackets 4096 8192) = tcpPacket.bytes :=
    Heap.contents_ofContents 0
  have hfound : tcpPacketCall.found ipv4Dissector.helper (twoPackets 4096 8192) .tcp =
      some ⟨4116, 0, 20⟩ := by
    rw [found_eq (findsHeaders_helper _) rfl, hpacket]
    rfl
  have hholds := assign_of_found (s := twoPacketsProgram) (n := 0) rfl hfound
  have hacc := h _ [] _ (List.append_nil _).symm (run_snoc run_parseTcpPacket hcollect)
  exact absurd (hacc 0 .tcp _ hholds).inside.1 (by decide)

end DivertNet
