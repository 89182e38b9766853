import Portproxy.Attributes

/-! Dumps over netlink. `rtnl_wilddump_request` of `libnetlink.c` asks the kernel
under a new sequence number, and `rtnl_dump_filter` hands the messages that
answer to a filter, until one says that there are no more. The filter of
`lowlevel-linux.c` keeps them. -/
namespace Portproxy.NetlinkDump
open HostOrder SizedRecords Attributes

/-- `NLMSG_HDRLEN`. -/
abbrev nlmsgHdrlen : Nat := 16

/-- `NLMSG_ALIGNTO`. -/
abbrev nlmsgAlignto : Nat := 4

/-- `NLMSG_OK` and `NLMSG_NEXT`. -/
def nlmsghdrLayout (order : ByteOrder) : Layout where
  header := nlmsgHdrlen
  align := nlmsgAlignto
  size := field order 0 4
  header_pos := by decide
  align_pos := by decide
  size_append _ rest enough := field_append (Nat.le_trans (by decide) enough) rest

def nlmsgLen (order : ByteOrder) (h : List UInt8) : Nat := field order 0 4 h
def nlmsgType (order : ByteOrder) (h : List UInt8) : Nat := field order 4 2 h
def nlmsgSeq (order : ByteOrder) (h : List UInt8) : Nat := field order 8 4 h
def nlmsgPid (order : ByteOrder) (h : List UInt8) : Nat := field order 12 4 h

def nlmsgError : Nat := 2
def nlmsgDone : Nat := 3

/-- `struct rtnl_handle`, as far as a dump needs it. -/
structure RtnlHandle where
  /-- `local.nl_pid`. -/
  pid : Nat
  seq : Nat
  dump : Nat := 0
  deriving DecidableEq, Repr

/-- `NLM_F_ROOT | NLM_F_MATCH | NLM_F_REQUEST`. -/
def dumpFlags : Nat := 0x301

/-- `rtnl_wilddump_request`: the handle afterwards, and what is sent. -/
def rtnlWilddumpRequest (order : ByteOrder) (rth : RtnlHandle) (family : UInt8) (type : Nat) :
    RtnlHandle × List UInt8 :=
  let seq := (rth.seq + 1) % 4294967296
  ({ rth with seq, dump := seq },
    order.store 4 20 ++ order.store 2 type ++ order.store 2 dumpFlags ++ order.store 4 seq ++
      order.store 4 0 ++ [family, 0, 0, 0])

/-- What `recvmsg` comes back with: an error, or a datagram of this sender. -/
inductive Recv where
  | failed
  | datagram (pid : Nat) (bytes : List UInt8)
  deriving DecidableEq, Repr

/-- The size of `buf`. -/
def bufSize : Nat := 16384

/-- What a filter does with a message of this sender: its return value, and what
has become of its argument. -/
abbrev RtnlFilter (State : Type) := State → Nat → List UInt8 → Int × State

/-- How the loop over a datagram is left early: it returns, or it reads what was not
received. -/
abbrev Stop (State : Type) := Option (Int × State)

/-- The result of a filter in the loop; an error ends it. -/
def stopOn (result : Int × State) : Except (Stop State) State :=
  if result.1 < 0 then .error (some result) else .ok result.2

/-- `NLMSG_LENGTH(sizeof(struct nlmsgerr))`. -/
def nlmsgerrLen : Nat := 36

/-- An `NLMSG_ERROR` in the loop. One that is long enough has its `err->error` read. -/
def errorVisit (order : ByteOrder) (state : State) (h : List UInt8) : Except (Stop State) State :=
  if nlmsgLen order h < nlmsgerrLen then .error (some (-1, state))
  else if h.length < nlmsgHdrlen + 4 then .error none
  else .error (some (-1, state))

/-- The messages that are for this dump. -/
abbrev Answers (order : ByteOrder) (rth : RtnlHandle) (message : Nat × List UInt8) : Prop :=
  message.1 = 0 ∧ nlmsgPid order message.2 = rth.pid ∧ nlmsgSeq order message.2 = rth.dump

/-- One message in the loop of `rtnl_dump_filter`. -/
def dumpVisit (order : ByteOrder) (rth : RtnlHandle) (filter : RtnlFilter State) (junk : Option (RtnlFilter State))
    (pid : Nat) (state : State) (h : List UInt8) : Except (Stop State) State :=
  if ¬ Answers order rth (pid, h) then
    match junk with
    | none => .ok state
    | some junk => stopOn (junk state pid h)
  else if nlmsgType order h = nlmsgDone then .error (some (0, state))
  else if nlmsgType order h = nlmsgError then errorVisit order state h
  else stopOn (filter state pid h)

/-- How a dump ends: it returns, and these receives are left for later, or the
process exits, or it waits for more to receive. -/
inductive Dump (State : Type) where
  | returned (code : Int) (state : State) (later : List Recv)
  | exited (state : State)
  | waiting (state : State)
  /-- It reads what was not received. -/
  | outside

/-- `rtnl_dump_filter` on what `recvmsg` comes back with. A datagram that is longer
than the buffer is cut, which `MSG_TRUNC` tells. -/
def rtnlDumpFilter (order : ByteOrder) (rth : RtnlHandle) (filter : RtnlFilter State)
    (junk : Option (RtnlFilter State)) : State → List Recv → Dump State
  | state, [] => .waiting state
  | state, .failed :: later => rtnlDumpFilter order rth filter junk state later
  | state, .datagram pid bytes :: later =>
    let buf := bytes.take bufSize
    if buf.length = 0 then .returned (-1) state later
    else
      match scan (nlmsghdrLayout order) (dumpVisit order rth filter junk pid) state buf.length buf with
      | .outside | .returned none => .outside
      | .returned (some (code, state)) => .returned code state later
      | .ended state status _ =>
        if bufSize < bytes.length then rtnlDumpFilter order rth filter junk state later
        else if status ≠ 0 then .exited state
        else rtnlDumpFilter order rth filter junk state later

/-- The bytes `store_nlmsg` copies. -/
def copied (order : ByteOrder) (n : List UInt8) : List UInt8 := n.take (nlmsgLen order n)

/-- `store_nlmsg`, on the list of messages; `malloc` tells whether there is memory
for another one. -/
def storeNlmsg (order : ByteOrder) (malloc : Nat → Bool) : RtnlFilter (List (List UInt8)) :=
  fun linfo _ n => if malloc linfo.length then (0, linfo ++ [copied order n]) else (-1, linfo)

variable {order : ByteOrder} {rth : RtnlHandle} {State : Type} {filter : RtnlFilter State}
  {junk : Option (RtnlFilter State)} {malloc : Nat → Bool} {linfo : List (List UInt8)}

/-! ## Messages of a datagram -/

/-- The messages of a receive, with their sender. -/
def messages (order : ByteOrder) : Recv → List (Nat × List UInt8)
  | .failed => []
  | .datagram pid bytes =>
    (walk (nlmsghdrLayout order) (bytes.take bufSize).length (bytes.take bufSize)).records.map (pid, ·)

/-- The messages received that answer, in their order. -/
def answers (order : ByteOrder) (rth : RtnlHandle) (recvs : List Recv) : List (List UInt8) :=
  ((recvs.flatMap (messages order)).filter (Answers order rth)).map Prod.snd

/-- A receive the loop gets through: a datagram that is not empty and ends with a
message, unless it was cut. -/
def Clean (order : ByteOrder) : Recv → Prop
  | .failed => True
  | .datagram _ bytes => bytes ≠ [] ∧ (bytes.length ≤ bufSize →
      (walk (nlmsghdrLayout order) bytes.length bytes).left = 0)

/-- A message that ends the dump. -/
abbrev Ends (order : ByteOrder) (h : List UInt8) : Prop :=
  nlmsgType order h = nlmsgDone ∨ nlmsgType order h = nlmsgError

/-- A message of a datagram begins inside of what was received, and ends there. -/
theorem messages_inside (member : message ∈ messages order (.datagram pid bytes)) :
    message.1 = pid ∧ (∃ before, bytes.take bufSize = before ++ message.2) ∧
      nlmsgHdrlen ≤ nlmsgLen order message.2 ∧ nlmsgLen order message.2 ≤ message.2.length := by
  obtain ⟨record, among, rfl⟩ := List.mem_map.mp member
  obtain ⟨before, split, header, ends⟩ := walk_inside (le_refl _) among
  refine ⟨rfl, ⟨before, split⟩, header, ?_⟩
  have long := congrArg List.length split
  rw [List.length_append] at long
  change (before.length + nlmsgLen order record : Int) ≤ _ at ends
  simp only
  omega

@[simp] theorem answers_append (first second : List Recv) :
    answers order rth (first ++ second) = answers order rth first ++ answers order rth second := by
  simp [answers]

theorem answers_cons (recv : Recv) (later : List Recv) :
    answers order rth (recv :: later) = answers order rth [recv] ++ answers order rth later :=
  answers_append [recv] later

/-- A datagram in the loop: its messages are visited in order. -/
theorem dump_filter_datagram (state : State) (filled : bytes ≠ []) (later : List Recv) :
    rtnlDumpFilter order rth filter junk state (.datagram pid bytes :: later) =
      match (messages order (.datagram pid bytes)).foldlM
          (fun state message => dumpVisit order rth filter junk message.1 state message.2) state with
      | .error none => .outside
      | .error (some (code, state)) => .returned code state later
      | .ok state =>
        if bytes.length ≤ bufSize ∧ (walk (nlmsghdrLayout order) bytes.length bytes).left ≠ 0 then
          .exited state
        else rtnlDumpFilter order rth filter junk state later := by
  have nonempty : ¬ (bytes.take bufSize).length = 0 := by
    have long : bytes.length ≠ 0 := fun none => filled (List.eq_nil_of_length_eq_zero none)
    rw [List.length_take, bufSize]
    omega
  rw [rtnlDumpFilter, if_neg nonempty, scan_eq _ _ (le_refl _), messages, List.foldlM_map]
  cases (walk (nlmsghdrLayout order) (bytes.take bufSize).length (bytes.take bufSize)).records.foldlM
      (dumpVisit order rth filter junk pid) state with
  | error result => cases result <;> rfl
  | ok state =>
    simp only
    by_cases cut : bufSize < bytes.length
    · rw [if_pos cut, if_neg (by omega)]
    · rw [if_neg cut, List.take_of_length_le (by omega)]
      by_cases remnant : (walk (nlmsghdrLayout order) bytes.length bytes).left = 0
      · simp [remnant]
      · rw [if_pos remnant, if_pos ⟨by omega, remnant⟩]

/-! ## Filters that do the same -/

/-- Dumps that come out the same way, with related states. -/
inductive Dump.Related {State State' : Type} (R : State → State' → Prop) : Dump State → Dump State' → Prop where
  | returned (related : R state state') : Related R (.returned code state later) (.returned code state' later)
  | exited (related : R state state') : Related R (.exited state) (.exited state')
  | waiting (related : R state state') : Related R (.waiting state) (.waiting state')
  | outside : Related R .outside .outside

/-- The same for messages in the loop. -/
inductive Visited {State State' : Type} (R : State → State' → Prop) :
    Except (Stop State) State → Except (Stop State') State' → Prop where
  | through (related : R state state') : Visited R (.ok state) (.ok state')
  | stopped (related : R state state') : Visited R (.error (some (code, state))) (.error (some (code, state')))
  | outside : Visited R (.error none) (.error none)

section Related

variable {State' : Type} {filter' : RtnlFilter State'} {R : State → State' → Prop} {state : State} {state' : State'}

theorem visit_related (same : (filter state pid h).1 = (filter' state' pid h).1)
    (kept : R (filter state pid h).2 (filter' state' pid h).2) (related : R state state') :
    Visited R (dumpVisit order rth filter none pid state h) (dumpVisit order rth filter' none pid state' h) := by
  unfold dumpVisit
  by_cases answers : Answers order rth (pid, h)
  · rw [if_neg (not_not.mpr answers), if_neg (not_not.mpr answers)]
    split
    · exact .stopped related
    · split
      · unfold errorVisit
        split
        · exact .stopped related
        · split
          · exact .outside
          · exact .stopped related
      · unfold stopOn
        rw [← same]
        split
        · have results : (filter' state' pid h) = ((filter state pid h).1, (filter' state' pid h).2) := by
            rw [same]
          rw [results]
          exact .stopped kept
        · exact .through kept
  · rw [if_pos answers, if_pos answers]
    exact .through related

/-- Filters that keep a relation and return the same. -/
abbrev Alike (filter : RtnlFilter State) (filter' : RtnlFilter State') (R : State → State' → Prop) : Prop :=
  ∀ state state' pid h, R state state' →
    (filter state pid h).1 = (filter' state' pid h).1 ∧ R (filter state pid h).2 (filter' state' pid h).2

theorem fold_related (order : ByteOrder) (rth : RtnlHandle) (alike : Alike filter filter' R)
    (messages : List (Nat × List UInt8))
    (related : R state state') :
    Visited R
      (messages.foldlM (fun state message => dumpVisit order rth filter none message.1 state message.2) state)
      (messages.foldlM (fun state message => dumpVisit order rth filter' none message.1 state message.2) state') := by
  induction messages generalizing state state' with
  | nil => exact .through related
  | cons message rest ih =>
    obtain ⟨same, kept⟩ := alike state state' message.1 message.2 related
    have visited : Visited R (dumpVisit order rth filter none message.1 state message.2)
        (dumpVisit order rth filter' none message.1 state' message.2) := visit_related same kept related
    rw [List.foldlM_cons, List.foldlM_cons]
    revert visited
    generalize dumpVisit order rth filter none message.1 state message.2 = here
    generalize dumpVisit order rth filter' none message.1 state' message.2 = there
    intro visited
    cases visited with
    | through next => exact ih next
    | stopped next => exact .stopped next
    | outside => exact .outside

/-- Such filters give dumps that do so. -/
theorem dump_related (alike : Alike filter filter' R) (order : ByteOrder) (rth : RtnlHandle)
    (recvs : List Recv) (related : R state state') :
    Dump.Related R (rtnlDumpFilter order rth filter none state recvs)
      (rtnlDumpFilter order rth filter' none state' recvs) := by
  induction recvs generalizing state state' with
  | nil => exact .waiting related
  | cons recv rest ih =>
    cases recv with
    | failed => exact ih related
    | datagram pid bytes =>
      by_cases empty : bytes = []
      · subst empty
        exact .returned related
      · rw [dump_filter_datagram state empty rest, dump_filter_datagram state' empty rest]
        have visited := fold_related order rth alike (messages order (.datagram pid bytes)) related
        revert visited
        generalize (messages order (.datagram pid bytes)).foldlM (fun state message =>
          dumpVisit order rth filter none message.1 state message.2) state = here
        generalize (messages order (.datagram pid bytes)).foldlM (fun state message =>
          dumpVisit order rth filter' none message.1 state message.2) state' = there
        intro visited
        cases visited with
        | stopped next => exact .returned next
        | outside => exact .outside
        | through next =>
          simp only
          split
          · exact .exited next
          · exact ih next

end Related

/-! ## What is stored -/

/-- The messages that answer. -/
def answering (order : ByteOrder) (rth : RtnlHandle) (messages : List (Nat × List UInt8)) : List (List UInt8) :=
  (messages.filter (Answers order rth)).map Prod.snd

/-- A message at which the dump returns with this code. -/
def Stops (order : ByteOrder) (malloc : Nat → Bool) (linfo : List (List UInt8)) (h : List UInt8)
    (code : Int) : Prop :=
  (nlmsgType order h = nlmsgDone ∧ code = 0) ∨ (nlmsgType order h = nlmsgError ∧ code = -1) ∨
    (¬ Ends order h ∧ malloc linfo.length = false ∧ code = -1)

/-- The error of a message that is whole can be read. -/
theorem error_visit_whole (state : State) (whole : nlmsgLen order h ≤ h.length) :
    errorVisit order state h = .error (some (-1, state)) := by
  unfold errorVisit
  split
  · rfl
  · next long =>
    rw [if_neg]
    simp only [nlmsgerrLen, nlmsgHdrlen] at long ⊢
    omega

theorem visit_store_other (other : ¬ Answers order rth message) :
    dumpVisit order rth (storeNlmsg order malloc) none message.1 linfo message.2 = .ok linfo := by
  rw [dumpVisit, if_pos other]

theorem visit_store (malloc : Nat → Bool) (linfo : List (List UInt8)) (answers : Answers order rth message)
    (whole : nlmsgLen order message.2 ≤ message.2.length) :
    (¬ Ends order message.2 ∧ dumpVisit order rth (storeNlmsg order malloc) none message.1 linfo message.2 =
        .ok (linfo ++ [copied order message.2])) ∨
      ∃ code, Stops order malloc linfo message.2 code ∧
        dumpVisit order rth (storeNlmsg order malloc) none message.1 linfo message.2 =
          .error (some (code, linfo)) := by
  unfold dumpVisit
  rw [if_neg (not_not.mpr answers)]
  by_cases done : nlmsgType order message.2 = nlmsgDone
  · exact .inr ⟨0, .inl ⟨done, rfl⟩, by rw [if_pos done]⟩
  · by_cases error : nlmsgType order message.2 = nlmsgError
    · refine .inr ⟨-1, .inr (.inl ⟨error, rfl⟩), ?_⟩
      rw [if_neg done, if_pos error]
      exact error_visit_whole linfo whole
    · have goes : ¬ Ends order message.2 := by rintro (is | is) <;> contradiction
      rw [if_neg done, if_neg error, storeNlmsg]
      cases room : malloc linfo.length with
      | true => exact .inl ⟨goes, rfl⟩
      | false => exact .inr ⟨-1, .inr (.inr ⟨goes, room, rfl⟩), rfl⟩

/-- What these answers leave in the list: all of them are kept, or those before the
one that ends the dump. -/
inductive Kept (order : ByteOrder) (malloc : Nat → Bool) (linfo answers : List (List UInt8)) :
    Except (Stop (List (List UInt8))) (List (List UInt8)) → Prop where
  | all (go : ∀ h ∈ answers, ¬ Ends order h) :
      Kept order malloc linfo answers (.ok (linfo ++ answers.map (copied order)))
  | before (split : answers = kept ++ h :: dropped) (go : ∀ h ∈ kept, ¬ Ends order h)
      (stops : Stops order malloc (linfo ++ kept.map (copied order)) h code) :
      Kept order malloc linfo answers (.error (some (code, linfo ++ kept.map (copied order))))

theorem Kept.cons (goes : ¬ Ends order h)
    (later : Kept order malloc (linfo ++ [copied order h]) others result) :
    Kept order malloc linfo (h :: others) result := by
  cases later with
  | all go =>
    rw [List.append_assoc]
    exact .all (List.forall_mem_cons.mpr ⟨goes, go⟩)
  | @before kept _ dropped _ split go stops =>
    rw [List.append_assoc] at stops ⊢
    subst split
    exact .before rfl (List.forall_mem_cons.mpr ⟨goes, go⟩) stops

/-- The loop with `store_nlmsg` over messages keeps those that answer. -/
theorem store_fold {messages : List (Nat × List UInt8)}
    (whole : ∀ message ∈ messages, nlmsgLen order message.2 ≤ message.2.length) (linfo : List (List UInt8)) :
    Kept order malloc linfo (answering order rth messages) (messages.foldlM (fun state message =>
      dumpVisit order rth (storeNlmsg order malloc) none message.1 state message.2) linfo) := by
  induction messages generalizing linfo with
  | nil =>
    have none : Kept order malloc linfo [] (.ok (linfo ++ [].map (copied order))) := .all (by simp)
    rw [List.map_nil, List.append_nil] at none
    exact none
  | cons message later ih =>
    obtain ⟨here, behind⟩ := List.forall_mem_cons.mp whole
    rw [List.foldlM_cons]
    by_cases answers : Answers order rth message
    · have first : answering order rth (message :: later) = message.2 :: answering order rth later := by
        simp [answering, answers]
      rw [first]
      rcases visit_store malloc linfo answers here with ⟨goes, kept⟩ | ⟨code, stops, ended⟩
      · rw [kept]
        exact .cons goes (ih behind _)
      · rw [ended]
        have none : linfo ++ [].map (copied order) = linfo := by simp
        rw [← none] at stops
        have first := Kept.before (rfl : message.2 :: answering order rth later = [] ++ _ :: _) (by simp) stops
        rw [none] at first
        exact first
    · have skipped : answering order rth (message :: later) = answering order rth later := by
        simp [answering, answers]
      rw [visit_store_other answers, skipped]
      exact ih behind linfo

/-! ## What a dump leaves -/

/-- How a dump of `store_nlmsg` comes out, by what was received. -/
inductive Dumped (order : ByteOrder) (rth : RtnlHandle) (malloc : Nat → Bool) (linfo : List (List UInt8))
    (recvs : List Recv) : Dump (List (List UInt8)) → Prop where
  /-- Nothing has ended it yet, and all answers are kept. -/
  | waiting (clean : ∀ recv ∈ recvs, Clean order recv) (go : ∀ h ∈ answers order rth recvs, ¬ Ends order h) :
      Dumped order rth malloc linfo recvs (.waiting (linfo ++ (answers order rth recvs).map (copied order)))
  /-- An answer ends it; those before are kept. -/
  | ended (received : recvs = used ++ last :: later) (clean : ∀ recv ∈ used, Clean order recv)
      (within : answers order rth used <+: kept)
      (split : answers order rth (used ++ [last]) = kept ++ h :: dropped) (go : ∀ h ∈ kept, ¬ Ends order h)
      (stops : Stops order malloc (linfo ++ kept.map (copied order)) h code) :
      Dumped order rth malloc linfo recvs (.returned code (linfo ++ kept.map (copied order)) later)
  /-- An empty datagram ends it. -/
  | eof (received : recvs = used ++ .datagram pid [] :: later) (clean : ∀ recv ∈ used, Clean order recv)
      (go : ∀ h ∈ answers order rth used, ¬ Ends order h) :
      Dumped order rth malloc linfo recvs
        (.returned (-1) (linfo ++ (answers order rth used).map (copied order)) later)
  /-- A datagram that does not end with a message ends the process. -/
  | remnant (received : recvs = used ++ last :: later) (clean : ∀ recv ∈ used, Clean order recv)
      (unclean : ¬ Clean order last) (go : ∀ h ∈ answers order rth (used ++ [last]), ¬ Ends order h) :
      Dumped order rth malloc linfo recvs
        (.exited (linfo ++ (answers order rth (used ++ [last])).map (copied order)))

/-- A receive before the others, all of whose answers are kept. -/
theorem Dumped.cons (clean : Clean order recv) (goes : ∀ h ∈ answers order rth [recv], ¬ Ends order h)
    (dumped : Dumped order rth malloc (linfo ++ (answers order rth [recv]).map (copied order)) recvs result) :
    Dumped order rth malloc linfo (recv :: recvs) result := by
  have front : ∀ more : List (List UInt8), linfo ++ (answers order rth [recv]).map (copied order) ++
      more.map (copied order) = linfo ++ (answers order rth [recv] ++ more).map (copied order) := by simp
  cases dumped with
  | waiting clean' go =>
    rw [front, ← answers_cons]
    refine .waiting (List.forall_mem_cons.mpr ⟨clean, clean'⟩) ?_
    rw [answers_cons]
    exact List.forall_mem_append.mpr ⟨goes, go⟩
  | @ended used last later kept h dropped _ received clean' within split go stops =>
    rw [front] at stops ⊢
    have inFront : answers order rth (recv :: used ++ [last]) = answers order rth [recv] ++ kept ++ h :: dropped := by
      rw [List.cons_append, answers_cons, split, List.append_assoc]
    refine .ended (by rw [received]; rfl) (List.forall_mem_cons.mpr ⟨clean, clean'⟩) ?_ inFront ?_ stops
    · rw [answers_cons]
      exact (List.prefix_append_right_inj _).mpr within
    · exact List.forall_mem_append.mpr ⟨goes, go⟩
  | eof received clean' go =>
    rw [front, ← answers_cons]
    refine .eof (by rw [received]; rfl) (List.forall_mem_cons.mpr ⟨clean, clean'⟩) ?_
    rw [answers_cons]
    exact List.forall_mem_append.mpr ⟨goes, go⟩
  | remnant received clean' unclean go =>
    rw [front, ← answers_cons, ← List.cons_append]
    refine .remnant (by rw [received]; rfl) (List.forall_mem_cons.mpr ⟨clean, clean'⟩) unclean ?_
    rw [List.cons_append, answers_cons]
    exact List.forall_mem_append.mpr ⟨goes, go⟩

/-- Whatever is received, the messages kept are those that answer, in their order,
up to the one that ends the dump. -/
theorem dump_keeps_answers (order : ByteOrder) (rth : RtnlHandle) (malloc : Nat → Bool)
    (linfo : List (List UInt8)) (recvs : List Recv) :
    Dumped order rth malloc linfo recvs (rtnlDumpFilter order rth (storeNlmsg order malloc) none linfo recvs) := by
  have none : linfo ++ (answers order rth []).map (copied order) = linfo := by simp [answers]
  induction recvs generalizing linfo with
  | nil =>
    have waits : Dumped order rth malloc linfo [] (.waiting (linfo ++ (answers order rth []).map (copied order))) :=
      .waiting (by simp) (by simp [answers])
    rw [none] at waits
    exact waits
  | cons recv later ih =>
    cases recv with
    | failed =>
      have silent : answers order rth [.failed] = [] := rfl
      rw [rtnlDumpFilter]
      refine .cons trivial (by simp [silent]) ?_
      rw [silent, List.map_nil, List.append_nil]
      exact ih linfo none
    | datagram pid bytes =>
      by_cases empty : bytes = []
      · subst empty
        have ends : Dumped order rth malloc linfo (.datagram pid [] :: later)
            (.returned (-1) (linfo ++ (answers order rth []).map (copied order)) later) :=
          .eof rfl (by simp) (by simp [answers])
        rw [none] at ends
        exact ends
      · rw [dump_filter_datagram linfo empty later]
        have one : answers order rth [.datagram pid bytes] =
            answering order rth (messages order (.datagram pid bytes)) := by
          simp [answers, answering]
        have folded : Kept order malloc linfo (answers order rth [.datagram pid bytes]) _ :=
          one ▸ store_fold (fun _ member => (messages_inside member).2.2.2) linfo
        revert folded
        generalize (messages order (.datagram pid bytes)).foldlM (fun state message =>
          dumpVisit order rth (storeNlmsg order malloc) Option.none message.1 state message.2) linfo = result
        intro folded
        cases folded with
        | before split go stops =>
          have first : answers order rth ([] ++ [.datagram pid bytes]) = _ := split
          exact .ended (rfl : _ = [] ++ _ :: later) (by simp) List.nil_prefix first go stops
        | all go =>
          simp only
          split
          · rename_i remnant
            have unclean : ¬ Clean order (.datagram pid bytes) := fun clean => remnant.2 (clean.2 remnant.1)
            exact .remnant (rfl : _ = [] ++ _ :: later) (by simp) unclean go
          · rename_i clean
            refine .cons ⟨empty, fun short => ?_⟩ go (ih _ (by simp [answers]))
            by_contra remnant
            exact clean ⟨short, remnant⟩

/-! ## What is read -/

/-- A message that was received from its sender, and ends within what was received. -/
def Received (order : ByteOrder) (recvs : List Recv) (message : Nat × List UInt8) : Prop :=
  ∃ bytes before, .datagram message.1 bytes ∈ recvs ∧ bytes.take bufSize = before ++ message.2 ∧
    nlmsgHdrlen ≤ nlmsgLen order message.2 ∧ nlmsgLen order message.2 ≤ message.2.length

/-- What a dump leaves, however it comes out. -/
def Dump.left : Dump State → Option State
  | .returned _ state _ | .exited state | .waiting state => some state
  | .outside => none

/-- What filters keep that are handed messages out of what was received. -/
abbrev Keeps (order : ByteOrder) (recvs : List Recv) (P : State → Prop) (filter : RtnlFilter State) : Prop :=
  ∀ state message, Received order recvs message → P state → P (filter state message.1 message.2).2

theorem visit_keeps {P : State → Prop} (rth : RtnlHandle) (keeps : Keeps order recvs P filter)
    (keeps' : ∀ other, junk = some other → Keeps order recvs P other) (received : Received order recvs message)
    (here : P state) :
    (∃ after, dumpVisit order rth filter junk message.1 state message.2 = .ok after ∧ P after) ∨
      ∃ code after, dumpVisit order rth filter junk message.1 state message.2 = .error (some (code, after)) ∧
        P after := by
  have stopped {result : Int × State} (kept : P result.2) : (∃ after, stopOn result = .ok after ∧ P after) ∨
      ∃ code after, stopOn result = .error (some (code, after)) ∧ P after := by
    unfold stopOn
    split
    · exact .inr ⟨result.1, result.2, rfl, kept⟩
    · exact .inl ⟨result.2, rfl, kept⟩
  unfold dumpVisit
  split
  · cases other : junk with
    | none => exact .inl ⟨state, rfl, here⟩
    | some junk => exact stopped (keeps' junk other state message received here)
  · split
    · exact .inr ⟨0, state, rfl, here⟩
    · split
      · obtain ⟨_, _, _, _, _, whole⟩ := received
        exact .inr ⟨-1, state, error_visit_whole state whole, here⟩
      · exact stopped (keeps state message received here)

theorem fold_keeps {P : State → Prop} (rth : RtnlHandle) (keeps : Keeps order recvs P filter)
    (keeps' : ∀ other, junk = some other → Keeps order recvs P other) {messages : List (Nat × List UInt8)}
    (received : ∀ message ∈ messages, Received order recvs message) (here : P state) :
    (∃ after, messages.foldlM (fun state message => dumpVisit order rth filter junk message.1 state message.2)
        state = .ok after ∧ P after) ∨
      ∃ code after, messages.foldlM
          (fun state message => dumpVisit order rth filter junk message.1 state message.2) state =
        .error (some (code, after)) ∧ P after := by
  induction messages generalizing state with
  | nil => exact .inl ⟨state, rfl, here⟩
  | cons message later ih =>
    obtain ⟨first, others⟩ := List.forall_mem_cons.mp received
    rw [List.foldlM_cons]
    rcases visit_keeps rth keeps keeps' first here with
      ⟨after, visited, kept⟩ | ⟨code, after, visited, kept⟩
    · rw [visited]
      exact ih others kept
    · rw [visited]
      exact .inr ⟨code, after, rfl, kept⟩

/-- How a dump comes out, while its filters keep something: not outside of what was
received. Where it exits, it is at a datagram that does not end with a message. -/
structure Inside (order : ByteOrder) (recvs : List Recv) (P : State → Prop) (dump : Dump State) : Prop where
  inside : dump ≠ .outside
  kept : ∀ state, dump.left = some state → P state
  exits : ∀ final, dump = .exited final → ∃ used pid bytes later, recvs = used ++ .datagram pid bytes :: later ∧
    (∀ recv ∈ used, Clean order recv) ∧ bytes ≠ [] ∧ bytes.length ≤ bufSize ∧
      (walk (nlmsghdrLayout order) bytes.length bytes).left ≠ 0

theorem Inside.cons (clean : Clean order recv) {P : State → Prop} {dump : Dump State}
    (inside : Inside order recvs P dump) : Inside order (recv :: recvs) P dump where
  inside := inside.inside
  kept := inside.kept
  exits final exited := by
    obtain ⟨used, pid, bytes, later, rfl, cleans, rest⟩ := inside.exits final exited
    exact ⟨recv :: used, pid, bytes, later, rfl, List.forall_mem_cons.mpr ⟨clean, cleans⟩, rest⟩

/-- The induction over what is received, of which `recvs` is the part to come. -/
theorem dump_keeps {P : State → Prop} {all : List Recv} (keeps : Keeps order all P filter)
    (keeps' : ∀ other, junk = some other → Keeps order all P other) (recvs : List Recv)
    (among : ∀ recv ∈ recvs, recv ∈ all) (here : P state) :
    Inside order recvs P (rtnlDumpFilter order rth filter junk state recvs) := by
  induction recvs generalizing state with
  | nil => exact ⟨nofun, fun _ same => Option.some.inj same ▸ here, nofun⟩
  | cons recv later ih =>
    obtain ⟨member, members⟩ := List.forall_mem_cons.mp among
    cases recv with
    | failed =>
      have clean : Clean order .failed := trivial
      exact .cons clean (ih members here)
    | datagram pid bytes =>
      by_cases empty : bytes = []
      · subst empty
        exact ⟨nofun, fun _ same => Option.some.inj same ▸ here, nofun⟩
      · have received : ∀ message ∈ messages order (.datagram pid bytes), Received order all message := by
          intro message member'
          obtain ⟨sender, ⟨before, split⟩, header, whole⟩ := messages_inside member'
          exact ⟨bytes, before, sender ▸ member, split, header, whole⟩
        rw [dump_filter_datagram state empty later]
        rcases fold_keeps rth keeps keeps' received here with
          ⟨after, folded, kept⟩ | ⟨code, after, folded, kept⟩
        · rw [folded]
          simp only
          split
          · next remnant =>
            refine ⟨nofun, fun _ same => Option.some.inj same ▸ kept, fun final _ => ?_⟩
            exact ⟨[], pid, bytes, later, rfl, by simp, empty, remnant⟩
          · next ends =>
            have clean : Clean order (.datagram pid bytes) := by
              refine ⟨empty, fun short => ?_⟩
              by_contra remnant
              exact ends ⟨short, remnant⟩
            exact .cons clean (ih members kept)
        · rw [folded]
          exact ⟨nofun, fun _ same => Option.some.inj same ▸ kept, nofun⟩

/-- A filter that also notes what it is called with. -/
def noting (filter : RtnlFilter State) : RtnlFilter (State × List (Nat × List UInt8)) :=
  fun state pid h =>
    let result := filter state.1 pid h
    (result.1, result.2, state.2 ++ [(pid, h)])

/-- Whatever is received, and whatever the filters do: no header and no error is read
that was not received, each message that the filters are called with lies in a
datagram of its sender, up to its end, and the process exits only at the first
datagram that does not end with a message, unless that was cut. -/
theorem dump_inside (order : ByteOrder) (rth : RtnlHandle) (filter : RtnlFilter State)
    (junk : Option (RtnlFilter State)) (state : State) (recvs : List Recv) :
    rtnlDumpFilter order rth filter junk state recvs ≠ .outside ∧
      (∀ final noted, (rtnlDumpFilter order rth (noting filter) (junk.map noting) (state, []) recvs).left =
          some (final, noted) → ∀ message ∈ noted, Received order recvs message) ∧
      ∀ final, rtnlDumpFilter order rth filter junk state recvs = .exited final →
        ∃ used pid bytes later, recvs = used ++ .datagram pid bytes :: later ∧
          (∀ recv ∈ used, Clean order recv) ∧ bytes ≠ [] ∧ bytes.length ≤ bufSize ∧
            (walk (nlmsghdrLayout order) bytes.length bytes).left ≠ 0 := by
  have plain : Inside order recvs (fun _ => True) (rtnlDumpFilter order rth filter junk state recvs) :=
    dump_keeps (fun _ _ _ _ => trivial) (fun _ _ _ _ _ _ => trivial) recvs (fun _ member => member) trivial
  have notes (filter : RtnlFilter State) : Keeps order recvs
      (fun state => ∀ message ∈ state.2, Received order recvs message) (noting filter) := by
    intro state message received noted
    exact List.forall_mem_append.mpr ⟨noted, by simpa using received⟩
  have noted : Inside order recvs (fun state => ∀ message ∈ state.2, Received order recvs message)
      (rtnlDumpFilter order rth (noting filter) (junk.map noting) (state, []) recvs) := by
    refine dump_keeps (notes filter) (fun other same => ?_) recvs (fun _ member => member) (by simp)
    obtain ⟨junk, -, rfl⟩ := Option.map_eq_some_iff.mp same
    exact notes junk
  exact ⟨plain.inside, fun final found left => noted.kept (final, found) left, plain.exits⟩

/-- Where the messages end that come before the first one that ends a dump. -/
theorem first_ending {received : List (List UInt8)} (split : received = kept ++ last :: dropped)
    (go : ∀ h ∈ kept, ¬ Ends order h) (ends : Ends order last) :
    received.takeWhile (fun h => ¬ Ends order h) = kept ∧ received.find? (fun h => Ends order h) = some last := by
  have stop : ¬ decide (¬ Ends order last) = true := by
    rw [decide_eq_true_eq]
    exact not_not.mpr ends
  subst split
  constructor
  · rw [List.takeWhile_append_of_pos (by simpa using go),
      List.takeWhile_cons_of_neg (p := fun h => ¬ Ends order h) stop, List.append_nil]
  · rw [List.find?_append, List.find?_eq_none.mpr (by simpa using go), Option.none_or,
      List.find?_cons_of_pos (by simpa using ends)]

/-- Over clean receives, with enough memory, a dump waits while no answer ends it,
and keeps all of them. The first one that does makes it return, by what it says,
with exactly those before it. -/
theorem clean_dump (order : ByteOrder) (rth : RtnlHandle) (clean : ∀ recv ∈ recvs, Clean order recv)
    (room : ∀ count, malloc count = true) (linfo : List (List UInt8)) :
    ((∀ h ∈ answers order rth recvs, ¬ Ends order h) →
        rtnlDumpFilter order rth (storeNlmsg order malloc) none linfo recvs =
          .waiting (linfo ++ (answers order rth recvs).map (copied order))) ∧
      ∀ kept last dropped, answers order rth recvs = kept ++ last :: dropped → (∀ h ∈ kept, ¬ Ends order h) →
        Ends order last → ∃ used later, recvs = used ++ later ∧
          rtnlDumpFilter order rth (storeNlmsg order malloc) none linfo recvs =
            .returned (if nlmsgType order last = nlmsgDone then 0 else -1)
              (linfo ++ kept.map (copied order)) later := by
  have dumped := dump_keeps_answers order rth malloc linfo recvs
  revert dumped
  generalize rtnlDumpFilter order rth (storeNlmsg order malloc) none linfo recvs = result
  intro dumped
  cases dumped with
  | waiting _ go =>
    refine ⟨fun _ => rfl, fun kept last dropped split _ ends => ?_⟩
    exact absurd ends (go last (by rw [split]; simp))
  | @ended used final later kept h dropped code received _ _ split go stops =>
    have whole : answers order rth recvs = kept ++ h :: (dropped ++ answers order rth later) := by
      rw [received, ← List.singleton_append, ← List.append_assoc, answers_append, split]
      simp
    have ends : Ends order h := by
      rcases stops with ⟨is, -⟩ | ⟨is, -⟩ | ⟨-, full, -⟩
      · exact .inl is
      · exact .inr is
      · rw [room] at full
        cases full
    obtain ⟨front, first⟩ := first_ending whole go ends
    refine ⟨fun none => absurd ends (none h (by rw [whole]; simp)), fun kept' last _ split' go' ends' => ?_⟩
    obtain ⟨front', first'⟩ := first_ending split' go' ends'
    obtain rfl : kept = kept' := front.symm.trans front'
    obtain rfl : h = last := Option.some.inj (first.symm.trans first')
    have said : code = if nlmsgType order h = nlmsgDone then 0 else -1 := by
      rcases stops with ⟨is, rfl⟩ | ⟨is, rfl⟩ | ⟨goes, -⟩
      · rw [if_pos is]
      · rw [if_neg (by rw [is]; decide)]
      · exact absurd ends goes
    exact ⟨used ++ [final], later, by simp [received], by rw [said]⟩
  | @eof used later pid received _ _ =>
    have empty := clean (.datagram pid []) (by rw [received]; simp)
    exact absurd rfl empty.1
  | remnant received _ unclean _ => exact absurd (clean _ (by rw [received]; simp)) unclean

/-- An address message, and the end of the dump behind it in the same datagram. -/
def addrMessage : List UInt8 := [20, 0, 0, 0, 20, 0, 2, 0, 9, 0, 0, 0, 7, 0, 0, 0, 2, 8, 128, 254]
def doneMessage : List UInt8 := [16, 0, 0, 0, 3, 0, 2, 0, 9, 0, 0, 0, 7, 0, 0, 0]

theorem addr_dumped :
    ∃ used later, [.failed, .datagram 0 (addrMessage ++ doneMessage)] = used ++ later ∧
      rtnlDumpFilter .little ⟨7, 9, 9⟩ (storeNlmsg .little fun _ => true) none []
          [.failed, .datagram 0 (addrMessage ++ doneMessage)] =
        .returned (if nlmsgType .little doneMessage = nlmsgDone then 0 else -1)
          ([] ++ [addrMessage ++ doneMessage].map (copied .little)) later := by
  refine (clean_dump .little ⟨7, 9, 9⟩ (fun recv member => ?_) (fun _ => rfl) []).2
    [addrMessage ++ doneMessage] doneMessage [] (by decide +kernel) (by decide) (by decide)
  rcases List.mem_pair.mp member with rfl | rfl
  · trivial
  · exact ⟨by decide, fun _ => by decide +kernel⟩

end Portproxy.NetlinkDump
