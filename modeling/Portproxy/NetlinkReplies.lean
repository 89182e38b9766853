import Portproxy.NetlinkDump

/-! What the kernel sends in reply to a dump, and what becomes of it. The replies
may be spread over datagrams in any way, with other messages between them; both
dumps of `if_list_get` and `iface_ip6_get` get their own. -/
namespace Portproxy.NetlinkDump
open HostOrder SizedRecords Attributes

variable {order : ByteOrder} {rth : RtnlHandle}

/-- A message with its header. -/
structure NlMsg where
  type : Nat
  flags : Nat := 0
  seq : Nat
  pid : Nat
  payload : List UInt8
  deriving DecidableEq, Repr

namespace NlMsg

def header (order : ByteOrder) (msg : NlMsg) : List UInt8 :=
  order.store 4 (16 + msg.payload.length) ++ (order.store 2 msg.type ++ (order.store 2 msg.flags ++
    (order.store 4 msg.seq ++ order.store 4 msg.pid)))

def bytes (order : ByteOrder) (msg : NlMsg) : List UInt8 := msg.header order ++ msg.payload

/-- The bytes up to the place of the next message. -/
def padded (order : ByteOrder) (msg : NlMsg) : List UInt8 := (nlmsghdrLayout order).pad (msg.bytes order)

/-- The fields of the header have room. -/
structure Encodable (msg : NlMsg) : Prop where
  length : 16 + msg.payload.length < 4294967296
  type : msg.type < 65536
  seq : msg.seq < 4294967296
  pid : msg.pid < 4294967296

instance (msg : NlMsg) : Decidable msg.Encodable :=
  decidable_of_iff (16 + msg.payload.length < 4294967296 ∧ msg.type < 65536 ∧ msg.seq < 4294967296 ∧
      msg.pid < 4294967296)
    ⟨fun ⟨length, type, seq, pid⟩ => ⟨length, type, seq, pid⟩,
      fun ⟨length, type, seq, pid⟩ => ⟨length, type, seq, pid⟩⟩

variable {msg : NlMsg} {msgs : List NlMsg}

@[simp] theorem length_header (order : ByteOrder) (msg : NlMsg) : (msg.header order).length = 16 := by
  simp [header]

@[simp] theorem length_bytes (order : ByteOrder) (msg : NlMsg) :
    (msg.bytes order).length = 16 + msg.payload.length := by
  simp [bytes]

theorem read_len (encodable : msg.Encodable) (written : msg.bytes order <+: h) :
    nlmsgLen order h = 16 + msg.payload.length := by
  obtain ⟨rest, rfl⟩ := written
  have read := field_store [] order 4 (16 + msg.payload.length) (order.store 2 msg.type ++
    (order.store 2 msg.flags ++ (order.store 4 msg.seq ++ (order.store 4 msg.pid ++ (msg.payload ++ rest)))))
  rw [Nat.mod_eq_of_lt (by simpa using encodable.length)] at read
  simpa [nlmsgLen, bytes, header] using read

theorem read_type (encodable : msg.Encodable) (written : msg.bytes order <+: h) :
    nlmsgType order h = msg.type := by
  obtain ⟨rest, rfl⟩ := written
  have read := field_store (order.store 4 (16 + msg.payload.length)) order 2 msg.type
    (order.store 2 msg.flags ++ (order.store 4 msg.seq ++ (order.store 4 msg.pid ++ (msg.payload ++ rest))))
  rw [Nat.mod_eq_of_lt (by simpa using encodable.type), order.length_store] at read
  simpa [nlmsgType, bytes, header] using read

theorem read_seq (encodable : msg.Encodable) (written : msg.bytes order <+: h) :
    nlmsgSeq order h = msg.seq := by
  obtain ⟨rest, rfl⟩ := written
  have read := field_store
    (order.store 4 (16 + msg.payload.length) ++ (order.store 2 msg.type ++ order.store 2 msg.flags))
    order 4 msg.seq (order.store 4 msg.pid ++ (msg.payload ++ rest))
  rw [Nat.mod_eq_of_lt (by simpa using encodable.seq)] at read
  simpa [nlmsgSeq, bytes, header] using read

theorem read_pid (encodable : msg.Encodable) (written : msg.bytes order <+: h) :
    nlmsgPid order h = msg.pid := by
  obtain ⟨rest, rfl⟩ := written
  have read := field_store
    (order.store 4 (16 + msg.payload.length) ++
      (order.store 2 msg.type ++ (order.store 2 msg.flags ++ order.store 4 msg.seq)))
    order 4 msg.pid (msg.payload ++ rest)
  rw [Nat.mod_eq_of_lt (by simpa using encodable.pid)] at read
  simpa [nlmsgPid, bytes, header] using read

theorem copied_bytes (encodable : msg.Encodable) (written : msg.bytes order <+: h) :
    copied order h = msg.bytes order := by
  have len := read_len encodable written
  obtain ⟨rest, rfl⟩ := written
  rw [copied, len, ← length_bytes order msg, List.take_left]

theorem record (encodable : msg.Encodable) : (nlmsghdrLayout order).Record (msg.bytes order) where
  header := by rw [length_bytes]; exact Nat.le_add_right 16 _
  size := (read_len encodable List.prefix_rfl).trans (length_bytes order msg).symm

theorem laid (order : ByteOrder) (encodable : ∀ msg ∈ msgs, msg.Encodable) :
    Laid (nlmsghdrLayout order) (msgs.map (bytes order)) (msgs.flatMap (padded order)) := by
  have all : ∀ record ∈ msgs.map (bytes order), (nlmsghdrLayout order).Record record := by
    intro record member
    obtain ⟨msg, among, rfl⟩ := List.mem_map.mp member
    exact NlMsg.record (encodable msg among)
  have area : msgs.flatMap (padded order) = (msgs.map (bytes order)).flatMap (nlmsghdrLayout order).pad := by
    rw [List.flatMap_map]
    rfl
  rw [area]
  exact laid_pad all

/-- The messages that end within `room` bytes. -/
def arriving (order : ByteOrder) : Nat → List NlMsg → List NlMsg
  | _, [] => []
  | room, msg :: later =>
    if 16 + msg.payload.length ≤ room then
      msg :: arriving order (room - (nlmsghdrLayout order).padded (16 + msg.payload.length)) later
    else []

theorem whole_arriving (room : Nat) (msgs : List NlMsg) :
    whole (nlmsghdrLayout order) room (msgs.map (bytes order)) = (arriving order room msgs).map (bytes order) := by
  induction msgs generalizing room with
  | nil => rfl
  | cons msg later ih =>
    rw [List.map_cons, whole, arriving, length_bytes, ih]
    split <;> rfl

theorem arriving_subset (room : Nat) (msgs : List NlMsg) : arriving order room msgs ⊆ msgs := by
  induction msgs generalizing room with
  | nil => exact List.Subset.refl _
  | cons msg later ih =>
    rw [arriving]
    split
    · exact List.cons_subset_cons msg (ih _)
    · exact List.nil_subset _

/-- A datagram that the buffer has room for arrives as it was sent. -/
theorem arriving_all (encodable : ∀ msg ∈ msgs, msg.Encodable)
    (short : (msgs.flatMap (padded order)).length ≤ room) : arriving order room msgs = msgs := by
  induction msgs generalizing room with
  | nil => rfl
  | cons msg later ih =>
    have further := (nlmsghdrLayout order).le_padded (16 + msg.payload.length)
    have here : (msg.padded order).length = (nlmsghdrLayout order).padded (16 + msg.payload.length) := by
      rw [padded, Layout.length_pad, length_bytes]
    rw [List.flatMap_cons, List.length_append, here] at short
    rw [arriving, if_pos (by omega),
      ih (fun other member => encodable other (List.mem_cons_of_mem _ member)) (by omega)]

/-- Bytes that are not there are no room. -/
theorem arriving_take (encodable : ∀ msg ∈ msgs, msg.Encodable) (room : Nat) :
    arriving order ((msgs.flatMap (padded order)).take room).length msgs = arriving order room msgs := by
  rw [List.length_take]
  rcases Nat.le_total (msgs.flatMap (padded order)).length room with short | long
  · rw [Nat.min_eq_right short, arriving_all encodable (le_refl _), arriving_all encodable short]
  · rw [Nat.min_eq_left long]

end NlMsg

/-- A receive, by the messages that were sent in it. -/
inductive Delivery where
  | failed
  | datagram (pid : Nat) (msgs : List NlMsg)
  deriving DecidableEq, Repr

namespace Delivery

def recv (order : ByteOrder) : Delivery → Recv
  | .failed => .failed
  | .datagram pid msgs => .datagram pid (msgs.flatMap (NlMsg.padded order))

/-- A datagram of one message at least, each with room in its header. -/
def Sent : Delivery → Prop
  | .failed => True
  | .datagram _ msgs => msgs ≠ [] ∧ ∀ msg ∈ msgs, msg.Encodable

instance : DecidablePred Sent
  | .failed => inferInstanceAs (Decidable True)
  | .datagram _ msgs => inferInstanceAs (Decidable (msgs ≠ [] ∧ ∀ msg ∈ msgs, msg.Encodable))

/-- The messages in it that answer, as far as the buffer has room for them. -/
def replies (order : ByteOrder) (rth : RtnlHandle) : Delivery → List NlMsg
  | .failed => []
  | .datagram pid msgs =>
    (NlMsg.arriving order bufSize msgs).filter fun msg => pid = 0 ∧ msg.pid = rth.pid ∧ msg.seq = rth.dump

variable {delivery : Delivery}

theorem clean (sent : delivery.Sent) : Clean order (delivery.recv order) := by
  cases delivery with
  | failed => trivial
  | datagram pid msgs =>
    obtain ⟨some, encodable⟩ := sent
    refine ⟨fun none => ?_, fun _ => ?_⟩
    · obtain ⟨msg, later, rfl⟩ := List.exists_cons_of_ne_nil some
      have long := congrArg List.length none
      have further := (nlmsghdrLayout order).le_padded (msg.bytes order).length
      rw [List.flatMap_cons, List.length_append, NlMsg.padded, Layout.length_pad, List.length_nil] at long
      rw [NlMsg.length_bytes] at further long
      omega
    · have read := (walk_laid_left (NlMsg.laid order encodable) []).1
      rwa [List.append_nil] at read

/-- A reply, and where it lies in memory. -/
abbrev At (order : ByteOrder) (msg : NlMsg) (h : List UInt8) : Prop := msg.Encodable ∧ msg.bytes order <+: h

/-- The answers among what is received are the replies, as they were sent. -/
theorem answers_replies (order : ByteOrder) (rth : RtnlHandle) (sent : delivery.Sent) :
    List.Forall₂ (At order) (delivery.replies order rth) (answers order rth [delivery.recv order]) := by
  cases delivery with
  | failed => exact .nil
  | datagram pid msgs =>
    obtain ⟨-, encodable⟩ := sent
    let area := msgs.flatMap (NlMsg.padded order)
    have cut : area.take (area.take bufSize).length = area.take bufSize := by
      rw [List.length_take, ← List.take_take, List.take_length]
    have found := walk_laid (NlMsg.laid order encodable) (List.length_take_le' bufSize area) []
    rw [NlMsg.whole_arriving, NlMsg.arriving_take encodable, List.append_nil, cut,
      List.forall₂_map_left_iff] at found
    have kept : ∀ msg ∈ NlMsg.arriving order bufSize msgs, msg.Encodable :=
      fun msg member => encodable msg (NlMsg.arriving_subset _ _ member)
    have written := (List.forall₂_and_left _ _).mpr ⟨kept, found⟩
    have same : answers order rth [(datagram pid msgs).recv order] =
        (walk (nlmsghdrLayout order) (area.take bufSize).length (area.take bufSize)).records.filter
          fun h => Answers order rth (pid, h) := by
      simp only [answers, messages, recv, List.flatMap_singleton, List.filter_map, List.map_map]
      exact List.map_id _
    rw [same]
    refine List.rel_filter ?_ written
    rintro msg h ⟨room, bytes⟩
    simp [NlMsg.read_seq room bytes, NlMsg.read_pid room bytes]

end Delivery

/-- All replies of these receives. -/
def replies (order : ByteOrder) (rth : RtnlHandle) (deliveries : List Delivery) : List NlMsg :=
  deliveries.flatMap (Delivery.replies order rth)

variable {deliveries : List Delivery} {malloc : Nat → Bool}

theorem answers_of_replies (order : ByteOrder) (rth : RtnlHandle)
    (sent : ∀ delivery ∈ deliveries, delivery.Sent) :
    List.Forall₂ (Delivery.At order) (replies order rth deliveries)
      (answers order rth (deliveries.map (Delivery.recv order))) := by
  induction deliveries with
  | nil => exact .nil
  | cons delivery later ih =>
    have here := Delivery.answers_replies order rth (sent delivery List.mem_cons_self)
    have behind := ih fun other member => sent other (List.mem_cons_of_mem _ member)
    rw [List.map_cons, answers_cons, replies, List.flatMap_cons]
    exact List.rel_append here behind

theorem replies_encodable (order : ByteOrder) (rth : RtnlHandle)
    (sent : ∀ delivery ∈ deliveries, delivery.Sent) :
    ∀ msg ∈ replies order rth deliveries, msg.Encodable := by
  intro msg member
  obtain ⟨delivery, among, within⟩ := List.mem_flatMap.mp member
  cases delivery with
  | failed => cases within
  | datagram pid msgs =>
    exact (sent _ among).2 msg (NlMsg.arriving_subset _ _ (List.mem_of_mem_filter within))

/-- A message that does not end the dump. -/
abbrev NlMsg.Goes (msg : NlMsg) : Prop := ¬ (msg.type = nlmsgDone ∨ msg.type = nlmsgError)

theorem ends_at (here : Delivery.At order msg h) : Ends order h ↔ ¬ msg.Goes := by
  rw [Ends, NlMsg.read_type here.1 here.2, NlMsg.Goes, not_not]

theorem copied_at (found : List.Forall₂ (Delivery.At order) msgs hs) :
    hs.map (copied order) = msgs.map (NlMsg.bytes order) := by
  induction found with
  | nil => rfl
  | cons here _ ih => rw [List.map_cons, List.map_cons, ih, NlMsg.copied_bytes here.1 here.2]

/-- The first message that ends a dump is the same among the replies and among the
answers. -/
theorem first_end (found : List.Forall₂ (Delivery.At order) (kept ++ last :: more) (kept' ++ h :: more'))
    (go : ∀ msg ∈ kept, msg.Goes) (ends : ¬ last.Goes) (go' : ∀ h ∈ kept', ¬ Ends order h)
    (ends' : Ends order h) : List.Forall₂ (Delivery.At order) kept kept' ∧ Delivery.At order last h := by
  induction kept generalizing kept' with
  | nil =>
    cases kept' with
    | nil =>
      cases found with
      | cons here _ => exact ⟨.nil, here⟩
    | cons first rest =>
      cases found with
      | cons here _ => exact absurd ((ends_at here).mpr ends) (go' first List.mem_cons_self)
  | cons msg rest ih =>
    cases kept' with
    | nil =>
      cases found with
      | cons here _ => exact absurd (go msg List.mem_cons_self) ((ends_at here).mp ends')
    | cons first rest' =>
      cases found with
      | cons here behind =>
        obtain ⟨same, at_end⟩ := ih behind (fun other member => go other (List.mem_cons_of_mem _ member))
          fun other member => go' other (List.mem_cons_of_mem _ member)
        exact ⟨.cons here same, at_end⟩

theorem heard (found : List.Forall₂ (Delivery.At order) (kept ++ msg :: more) hs) :
    ∃ h ∈ hs, Delivery.At order msg h := by
  induction kept generalizing hs with
  | nil =>
    cases found with
    | cons here _ => exact ⟨_, List.mem_cons_self, here⟩
  | cons _ rest ih =>
    cases found with
    | cons _ behind =>
      obtain ⟨h, member, here⟩ := ih behind
      exact ⟨h, List.mem_cons_of_mem _ member, here⟩

/-- However the replies are spread over datagrams, and whatever else they carry,
a dump returns with exactly the messages before the one that says `NLMSG_DONE`. -/
theorem dump_of_replies (sent : ∀ delivery ∈ deliveries, delivery.Sent) (room : ∀ count, malloc count = true)
    (reply : replies order rth deliveries = msgs ++ done :: more) (go : ∀ msg ∈ msgs, msg.Goes)
    (last : done.type = nlmsgDone) (linfo : List (List UInt8)) :
    ∃ used later, deliveries = used ++ later ∧
      rtnlDumpFilter order rth (storeNlmsg order malloc) none linfo (deliveries.map (Delivery.recv order)) =
        .returned 0 (linfo ++ msgs.map (NlMsg.bytes order)) (later.map (Delivery.recv order)) := by
  have ends : ¬ done.Goes := not_not.mpr (.inl last)
  have found := answers_of_replies order rth sent
  rw [reply] at found
  have dumped := dump_keeps_answers order rth malloc linfo (deliveries.map (Delivery.recv order))
  have clean : ∀ recv ∈ deliveries.map (Delivery.recv order), Clean order recv := by
    intro recv member
    obtain ⟨delivery, among, rfl⟩ := List.mem_map.mp member
    exact Delivery.clean (sent delivery among)
  -- the reply that ends it is among the answers
  obtain ⟨h, member, here⟩ := heard found
  have stopped : Ends order h := (ends_at here).mpr ends
  revert dumped
  generalize rtnlDumpFilter order rth (storeNlmsg order malloc) none linfo
    (deliveries.map (Delivery.recv order)) = result
  intro dumped
  cases dumped with
  | waiting _ goes => exact absurd stopped (goes h member)
  | remnant received _ unclean _ => exact absurd (clean _ (by rw [received]; simp)) unclean
  | @eof used later pid received _ _ =>
    have empty := clean (.datagram pid []) (by rw [received]; simp)
    exact absurd rfl empty.1
  | @ended used last' later kept h' dropped code received _ _ split goes stops =>
    have whole : answers order rth (deliveries.map (Delivery.recv order)) =
        kept ++ h' :: (dropped ++ answers order rth later) := by
      rw [received, ← List.singleton_append, ← List.append_assoc, answers_append, split]
      simp
    have ends' : Ends order h' := by
      rcases stops with ⟨is, -⟩ | ⟨is, -⟩ | ⟨-, full, -⟩
      · exact .inl is
      · exact .inr is
      · rw [room] at full
        cases full
    rw [whole] at found
    obtain ⟨same, here'⟩ := first_end found go ends goes ends'
    have type : nlmsgType order h' = nlmsgDone := (NlMsg.read_type here'.1 here'.2).trans last
    have code_zero : code = 0 := by
      rcases stops with ⟨-, is⟩ | ⟨error, -⟩ | ⟨goes', -⟩
      · exact is
      · rw [type] at error
        cases error
      · exact absurd ends' goes'
    obtain ⟨front, behind, rfl, -, split'⟩ := List.map_eq_append_iff.mp received
    obtain ⟨final, rest, rfl, -, rfl⟩ := List.map_eq_cons_iff.mp split'
    refine ⟨front ++ [final], rest, by simp, ?_⟩
    rw [code_zero, copied_at same]

/-! ## Two dumps on one handle -/

def afUnspec : UInt8 := 0
def afPacket : UInt8 := 17
def rtmGetlink : Nat := 18
def rtmGetaddr : Nat := 22

/-- The two dumps of `if_list_get` and of `iface_ip6_get`: `recvs` is there to be
received when the first one waits, and `recvs'` comes when the second one has been
asked for. There are no lists if a dump does not return; what it returns is not
looked at. -/
def dumps (order : ByteOrder) (malloc malloc' : Nat → Bool) (rth : RtnlHandle) (recvs recvs' : List Recv) :
    Option (List (List UInt8) × List (List UInt8)) :=
  let rth := (rtnlWilddumpRequest order rth afPacket rtmGetlink).1
  match rtnlDumpFilter order rth (storeNlmsg order malloc) none [] recvs with
  | .returned _ linfo later =>
    let rth := (rtnlWilddumpRequest order rth afUnspec rtmGetaddr).1
    match rtnlDumpFilter order rth (storeNlmsg order malloc') none [] (later ++ recvs') with
    | .returned _ ainfo _ => some (linfo, ainfo)
    | _ => none
  | _ => none

/-- The handle while the first dump, and while the second dump is received. -/
def firstHandle (rth : RtnlHandle) : RtnlHandle :=
  { rth with seq := (rth.seq + 1) % 4294967296, dump := (rth.seq + 1) % 4294967296 }

def secondHandle (rth : RtnlHandle) : RtnlHandle := firstHandle (firstHandle rth)

/-- Two dumps whose replies are all delivered, the second one's after it was asked
for, leave the links in one list and the addresses in the other. -/
theorem dumps_of_replies {deliveries' : List Delivery} {malloc' : Nat → Bool} (order : ByteOrder) (rth : RtnlHandle)
    (sent : ∀ delivery ∈ deliveries, delivery.Sent) (sent' : ∀ delivery ∈ deliveries', delivery.Sent)
    (room : ∀ count, malloc count = true) (room' : ∀ count, malloc' count = true)
    (linkReply : replies order (firstHandle rth) deliveries = links ++ done :: more)
    (unasked : replies order (secondHandle rth) deliveries = [])
    (addrReply : replies order (secondHandle rth) deliveries' = addrs ++ done' :: more')
    (linksGo : ∀ msg ∈ links, msg.Goes) (addrsGo : ∀ msg ∈ addrs, msg.Goes)
    (last : done.type = nlmsgDone) (last' : done'.type = nlmsgDone) :
    dumps order malloc malloc' rth (deliveries.map (Delivery.recv order)) (deliveries'.map (Delivery.recv order)) =
      some (links.map (NlMsg.bytes order), addrs.map (NlMsg.bytes order)) := by
  obtain ⟨used, later, rfl, first⟩ := dump_of_replies sent room linkReply linksGo last []
  have behind : ∀ delivery ∈ later ++ deliveries', delivery.Sent := by
    intro delivery member
    rcases List.mem_append.mp member with early | late
    · exact sent delivery (List.mem_append_right _ early)
    · exact sent' delivery late
  have none : replies order (secondHandle rth) later = [] := by
    rw [replies, List.flatMap_append] at unasked
    exact (List.append_eq_nil_iff.mp unasked).2
  have addrReply' : replies order (secondHandle rth) (later ++ deliveries') = addrs ++ done' :: more' := by
    rw [replies, List.flatMap_append, ← replies, none, List.nil_append]
    exact addrReply
  obtain ⟨used', rest, -, second⟩ := dump_of_replies behind room' addrReply' addrsGo last' []
  rw [List.map_append] at second
  change (match rtnlDumpFilter order (firstHandle rth) (storeNlmsg order malloc) _ [] _ with
    | .returned _ linfo later =>
      match rtnlDumpFilter order (secondHandle rth) (storeNlmsg order malloc') _ [] (later ++ _) with
      | .returned _ ainfo _ => some (linfo, ainfo)
      | _ => Option.none
    | _ => Option.none) = _
  simp only [first, second, List.nil_append]

/-- A message in a list of this dump: whole, of this dump and no end of it. -/
structure Of (order : ByteOrder) (rth : RtnlHandle) (n : List UInt8) : Prop where
  length : nlmsgLen order n = n.length
  header : 16 ≤ n.length
  pid : nlmsgPid order n = rth.pid
  seq : nlmsgSeq order n = rth.dump
  goes : ¬ Ends order n

theorem copied_of (member : h ∈ answers order rth recvs) (goes : ¬ Ends order h) :
    Of order rth (copied order h) := by
  obtain ⟨⟨pid, h'⟩, among, rfl⟩ := List.mem_map.mp member
  obtain ⟨received, answers⟩ := List.mem_filter.mp among
  obtain ⟨-, forPid, forSeq⟩ := of_decide_eq_true answers
  obtain ⟨recv, -, within⟩ := List.mem_flatMap.mp received
  cases recv with
  | failed => cases within
  | datagram sender bytes =>
    obtain ⟨_, record, same⟩ := List.mem_map.mp within
    cases same
    change Of order rth (copied order h')
    obtain ⟨before, split, header, ends⟩ := walk_inside (le_refl _) record
    have long : nlmsgLen order h' ≤ h'.length := by
      have total := congrArg List.length split
      rw [List.length_append] at total
      change (before.length + nlmsgLen order h' : Int) ≤ _ at ends
      omega
    have enough : 16 ≤ nlmsgLen order h' := header
    have size : (copied order h').length = nlmsgLen order h' := by
      rw [copied, List.length_take]
      omega
    have kept : ∀ offset width, offset + width ≤ 16 →
        field order offset width (copied order h') = field order offset width h' := by
      intro offset width small
      have read : field order offset width (copied order h' ++ h'.drop (nlmsgLen order h')) =
          field order offset width (copied order h') := field_append (by omega) _
      rw [copied, List.take_append_drop] at read
      exact read.symm
    exact {
      length := (kept 0 4 (by omega)).trans size.symm
      header := by omega
      pid := (kept 12 4 (by omega)).trans forPid
      seq := (kept 8 4 (by omega)).trans forSeq
      goes := by
        have type : nlmsgType order (copied order h') = nlmsgType order h' := kept 4 2 (by omega)
        rwa [Ends, type] }

/-- Every message a dump keeps is one of this dump. -/
theorem dump_keeps_own (returned : rtnlDumpFilter order rth (storeNlmsg order malloc) none [] recvs =
    .returned code linfo later) : ∀ n ∈ linfo, Of order rth n := by
  have dumped := dump_keeps_answers order rth malloc [] recvs
  rw [returned] at dumped
  intro n member
  cases dumped with
  | @ended used last later kept _ _ _ received clean within split go stops =>
    obtain ⟨h, among, rfl⟩ := List.mem_map.mp member
    have answered : h ∈ answers order rth (used ++ [last]) := by
      rw [split]
      exact List.mem_append_left _ among
    exact copied_of answered (go h among)
  | eof received clean go =>
    obtain ⟨h, among, rfl⟩ := List.mem_map.mp member
    exact copied_of among (go h among)

/-- Whatever is received, the lists of the two dumps hold messages of their own
request only, so that none of the first dump gets into the second list. -/
theorem dumps_separate (order : ByteOrder) (malloc malloc' : Nat → Bool) (rth : RtnlHandle) (recvs recvs' : List Recv)
    (lists : dumps order malloc malloc' rth recvs recvs' = some (linfo, ainfo)) :
    (∀ n ∈ linfo, Of order (firstHandle rth) n) ∧ (∀ n ∈ ainfo, Of order (secondHandle rth) n) ∧
      linfo.Disjoint ainfo := by
  unfold dumps at lists
  simp only at lists
  split at lists
  · rename_i first
    split at lists
    · rename_i second
      cases lists
      have links : ∀ n ∈ linfo, Of order (firstHandle rth) n := dump_keeps_own first
      have addrs : ∀ n ∈ ainfo, Of order (secondHandle rth) n := dump_keeps_own second
      refine ⟨links, addrs, fun n member member' => ?_⟩
      have same := (links n member).seq.symm.trans (addrs n member').seq
      simp only [firstHandle, secondHandle] at same
      omega
    · cases lists
  · cases lists

/-- A link, and what ends its dump; then an address that comes too early, and what
answers the second request. -/
def bareMsg (type seq : Nat) : NlMsg := { type, flags := 2, seq, pid := 7, payload := [] }

def earlyAddr : List Recv :=
  [.datagram 0 ((bareMsg 16 41).bytes .little ++ (bareMsg 3 41).bytes .little),
    .datagram 0 ((bareMsg 20 41).bytes .little)]

def lateAddr : List Recv := [.datagram 0 ((bareMsg 20 42).bytes .little ++ (bareMsg 3 42).bytes .little)]

theorem early_addr_separate :
    (∀ n ∈ [(bareMsg 16 41).bytes .little], Of .little (firstHandle ⟨7, 40, 0⟩) n) ∧
      (∀ n ∈ [(bareMsg 20 42).bytes .little], Of .little (secondHandle ⟨7, 40, 0⟩) n) ∧
        [(bareMsg 16 41).bytes .little].Disjoint [(bareMsg 20 42).bytes .little] :=
  dumps_separate .little (fun _ => true) (fun _ => true) ⟨7, 40, 0⟩ earlyAddr lateAddr (by decide +kernel)

end Portproxy.NetlinkDump
