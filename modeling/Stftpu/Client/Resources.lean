import Stftpu.Program
import Stftpu.Server.Resources

/-!
# What a client holds

The data socket of a client is bound by its first call and closed by its last, and the file of
a transfer is closed on every way out.

* `ClientState.files` — how many files are open at a control point.
* `ClientState.Accounts`, `ClientState.accounts_step` — a call opens and closes what its event
  says.
* `client_releases` — over the runs of the program.
-/

namespace Stftpu

open Library

namespace ClientState

/-- How many files the client has open. -/
def files : ClientState → Nat
  | .filling s => s.fileOpen.toNat
  | .receiving _ _ => 1
  | .transmitting _ _ => 1
  | .closing _ _ => 1
  | _ => 0

/-- The file of a transfer is open where the control point says so. -/
def Tidy : ClientState → Prop
  | .filling s => s.FileAt
  | _ => True

/-- What a call of the client does with what the client holds. -/
structure Accounts (c c' : ClientState) (e : Event) : Prop where
  tidy : c'.Tidy
  files : c' = .fault ∨ c'.files + e.closed = c.files + e.opened
  socket : ∀ op', c'.operation = some op' →
    ∃ op, c.operation = some op ∧ op'.dataSocket = op.dataSocket
  /-- The socket is not the client's to close. -/
  leaves : (∀ fd, e ≠ .close fd) ∧ ∀ result, e ≠ .dataSocket result

section Steps

variable {host : Host} {c c' : ClientState} {e : Event} {op op' : OperationData}

theorem files_le (c : ClientState) : c.files ≤ 1 := by
  cases c with
  | filling s => exact Bool.toNat_le s.fileOpen
  | _ => simp [files]

theorem tidy_freeTransferData (fileOpen outcome : Bool) :
    (freeTransferData op fileOpen outcome).Tidy := by
  unfold freeTransferData
  split <;> trivial

theorem files_freeTransferData (fileOpen outcome : Bool) :
    (freeTransferData op fileOpen outcome).files = fileOpen.toNat := by
  unfold freeTransferData
  cases fileOpen <;> rfl

theorem files_acknowledged : (acknowledged op).files = 0 ∧ (acknowledged op).Tidy := by
  unfold acknowledged
  split <;> exact ⟨rfl, trivial⟩

/-- A fill that is ready hands its stream over, and one that failed has it closed. -/
theorem tidy_afterFill {s : FillState} (h : s.FileAt) :
    (afterFill s).Tidy ∧ (afterFill s = .fault ∨ (afterFill s).files = s.fileOpen.toNat) := by
  unfold afterFill
  split
  · rename_i b tx hpoint
    have hopen : s.fileOpen = true := by simpa [FillState.FileAt, hpoint] using h
    rw [hopen]
    split
    · exact ⟨trivial, Or.inr rfl⟩
    · exact ⟨trivial, Or.inr rfl⟩
  · split
    · exact ⟨tidy_freeTransferData _ _, Or.inr (files_freeTransferData _ _)⟩
    · exact ⟨trivial, Or.inl rfl⟩
  · exact ⟨h, Or.inr rfl⟩

theorem socket_await {s s' : AwaitState} (hstep : tftpAwaitAcknowledgement host s e = some s') :
    s'.op.dataSocket = s.op.dataSocket := by
  have hloop : ∀ s : AwaitState, s.loopTest.op = s.op := by
    intro s
    rcases s.loopTest_cases with ⟨-, heq⟩ | heq
    · rw [heq]
    · rw [heq]
  cases hpoint : s.point with
  | allocating =>
      obtain ⟨block, packet, -, rfl⟩ := await_allocating hpoint hstep
      rw [hloop]
  | awaiting =>
      obtain ⟨result, -, rfl⟩ := await_awaiting hpoint hstep
      cases result with
      | failed errno => rw [AwaitState.onReceived, hloop]
      | datagram source bytes =>
          simp only [AwaitState.onReceived]
          split
          · rw [hloop]
          · split
            · rfl
            · split
              · rfl
              · rw [hloop]
  | returned exit => simp [tftpAwaitAcknowledgement, hpoint] at hstep

/-- The only calls of a wait are of its block and its socket. -/
theorem calls_await {s s' : AwaitState} (hstep : tftpAwaitAcknowledgement host s e = some s') :
    e.closed = 0 ∧ e.opened = 0 ∧ (∀ fd, e ≠ .close fd) ∧ ∀ result, e ≠ .dataSocket result := by
  cases hpoint : s.point with
  | allocating =>
      obtain ⟨block, packet, rfl, -⟩ := await_allocating hpoint hstep
      exact ⟨rfl, rfl, by simp, by simp⟩
  | awaiting =>
      obtain ⟨result, rfl, -⟩ := await_awaiting hpoint hstep
      exact ⟨rfl, rfl, by simp, by simp⟩
  | returned exit => simp [tftpAwaitAcknowledgement, hpoint] at hstep

/-- A call of a transfer, with the file open before and behind it. -/
theorem Accounts.of_inTransfer {before after : OperationData}
    (hbefore : c.operation = some before) (hsocket : after.dataSocket = before.dataSocket)
    (hafter : ∀ op', c'.operation = some op' → op' = after) (htidy : c'.Tidy)
    (hfiles : c' = .fault ∨ c'.files = c.files) (he : e.InTransfer) : Accounts c c' e where
  tidy := htidy
  files := by
    rw [Event.closed_of_inTransfer he, Event.opened_of_inTransfer he]
    exact hfiles
  socket := by
    intro op' hop'
    rw [hafter op' hop']
    exact ⟨before, hbefore, hsocket⟩
  leaves := by
    constructor
    · rintro fd rfl
      exact he
    · rintro result rfl
      exact he

theorem accounts_step (htidy : c.Tidy) (hstep : clientStartOperation host c e = some c') :
    Accounts c c' e := by
  cases client_called hstep with
  | requesting op packet ok =>
      refine ⟨?_, Or.inr ?_, ?_, by simp, by simp⟩
      · unfold onRequested
        split
        · split
          · exact files_acknowledged.2
          · trivial
        · trivial
      · unfold onRequested
        split
        · split
          · rw [files_acknowledged.1]
            rfl
          · rfl
        · rfl
      · intro op' hop'
        rw [operation_onRequested hop']
        exact ⟨op, rfl, rfl⟩
  | awaitingRequest s s' hs =>
      obtain ⟨hclosed, hopened, hleaves⟩ := calls_await hs
      refine ⟨?_, Or.inr ?_, ?_, hleaves⟩
      · unfold afterRequest
        split
        · exact files_acknowledged.2
        · trivial
        · trivial
      · rw [hclosed, hopened]
        unfold afterRequest
        split
        · exact files_acknowledged.1
        · rfl
        · rfl
      · intro op' hop'
        rw [operation_afterRequest hop']
        exact ⟨s.op, rfl, socket_await hs⟩
  | awaitingDeletion s s' hs =>
      obtain ⟨hclosed, hopened, hleaves⟩ := calls_await hs
      refine ⟨?_, Or.inr ?_, ?_, hleaves⟩
      · unfold afterDeletion
        split <;> trivial
      · rw [hclosed, hopened]
        unfold afterDeletion
        split <;> rfl
      · intro op' hop'
        rw [operation_afterDeletion hop']
        exact ⟨s.op, rfl, socket_await hs⟩
  | allocating op block =>
      have hstart : ∀ receiver, (afterFill (FillState.start op block.isSome receiver)).Tidy ∧
          (afterFill (FillState.start op block.isSome receiver) = .fault ∨
            (afterFill (FillState.start op block.isSome receiver)).files = 0) := by
        intro receiver
        have hfill := tidy_afterFill (FillState.fileAt_start op block.isSome receiver)
        rw [FillState.start_fileOpen] at hfill
        exact hfill
      refine ⟨?_, ?_, ?_, by simp, by simp⟩
      · unfold onAllocated
        split
        · exact (hstart true).1
        · exact (hstart false).1
        · trivial
      · unfold onAllocated
        split
        · exact (hstart true).2
        · exact (hstart false).2
        · exact Or.inl rfl
      · intro op' hop'
        rw [operation_onAllocated hop']
        exact ⟨op, rfl, rfl⟩
  | filling s s' hs =>
      have hfill := FillState.accounts_step htidy hs
      obtain ⟨hafter, hfiles⟩ := tidy_afterFill hfill.fileAt
      refine ⟨hafter, ?_, ?_, hfill.call.2.2.2, ?_⟩
      · rw [hfill.call.1]
        rcases hfiles with hfault | hfiles
        · exact Or.inl hfault
        · exact Or.inr (hfiles.trans hfill.files)
      · intro op' hop'
        rw [operation_afterFill hop']
        exact ⟨s.op, rfl, congrArg Prod.fst hfill.socket⟩
      · rintro result rfl
        cases hpoint : s.point <;> simp [tftpFillTransferData, hpoint] at hs
  | receiving b s s' hs =>
      obtain ⟨hsocket, he⟩ := ReceiveState.socket_step hs
      refine Accounts.of_inTransfer rfl (congrArg Prod.fst hsocket)
        (fun op' hop' => operation_afterReceive hop') ?_ ?_ he
      · unfold afterReceive
        split
        · exact tidy_freeTransferData _ _
        · trivial
        · trivial
      · unfold afterReceive
        split
        · exact Or.inr (files_freeTransferData _ _)
        · exact Or.inl rfl
        · exact Or.inr rfl
  | transmitting b s s' hs =>
      obtain ⟨hsocket, he⟩ := TransmitState.socket_step hs
      refine Accounts.of_inTransfer rfl (congrArg Prod.fst hsocket)
        (fun op' hop' => operation_afterTransmit hop') ?_ ?_ he
      · unfold afterTransmit
        split
        · exact tidy_freeTransferData _ _
        · trivial
      · unfold afterTransmit
        split
        · exact Or.inr (files_freeTransferData _ _)
        · exact Or.inr rfl
  | closing op outcome =>
      refine ⟨trivial, Or.inr rfl, ?_, by simp, by simp⟩
      intro op' hop'
      exact ⟨op, rfl, by rw [Option.some.inj hop']⟩

end Steps

end ClientState

/-! ## The program -/

/-- How many files the call opened. -/
def ProgramMove.opened : ProgramMove → Nat
  | .call e => e.opened
  | _ => 0

/-- How many files the call closed. -/
def ProgramMove.closed : ProgramMove → Nat
  | .call e => e.closed
  | _ => 0

def filesOpened (moves : List ProgramMove) : Nat :=
  (moves.map ProgramMove.opened).sum

def filesClosed (moves : List ProgramMove) : Nat :=
  (moves.map ProgramMove.closed).sum

/-- A data socket is made or closed. -/
def ProgramMove.ofSocket : ProgramMove → Bool
  | .call (.dataSocket _) => true
  | .call (.close _) => true
  | _ => false

/-- The socket was bound by the first call, and it is still open. -/
def SocketHeld (fd : Int) (moves : List ProgramMove) : Prop :=
  ∃ port mid, moves = .call (.dataSocket (.bound fd port)) :: mid ∧
    ∀ m ∈ mid, m.ofSocket = false

/-- Every file is closed again, and so is the socket, by the last call. -/
def Released (moves : List ProgramMove) : Prop :=
  filesOpened moves = filesClosed moves ∧
    ∀ fd port, 0 < fd → .call (.dataSocket (.bound fd port)) ∈ moves →
      ∃ mid, moves = .call (.dataSocket (.bound fd port)) :: (mid ++ [.call (.close fd)]) ∧
        ∀ m ∈ mid, m.ofSocket = false

/-- What the program holds at a control point of the client. -/
def ProgramState.Holds (moves : List ProgramMove) : ProgramState → Prop
  | .initializing args =>
      moves = [] ∧ args.peer.port = 69 ∧ (requestOpcode args.operation).isSome = true
  | .discarding fd => SocketHeld fd moves ∧ filesOpened moves = filesClosed moves
  | .operating state => state.Tidy ∧ filesOpened moves = filesClosed moves + state.files ∧
      ∃ fd, SocketHeld fd moves ∧ ∀ op, state.operation = some op → op.dataSocket = fd
  | .closing op _ => SocketHeld op.dataSocket moves ∧ filesOpened moves = filesClosed moves
  | .exited _ => Released moves
  | .fault => True
  | _ => False

section Traces

variable {moves : List ProgramMove} {m : ProgramMove} {fd : Int} {port : UInt16}

theorem filesOpened_snoc (moves : List ProgramMove) (m : ProgramMove) :
    filesOpened (moves ++ [m]) = filesOpened moves + m.opened := by
  simp [filesOpened]

theorem filesClosed_snoc (moves : List ProgramMove) (m : ProgramMove) :
    filesClosed (moves ++ [m]) = filesClosed moves + m.closed := by
  simp [filesClosed]

theorem SocketHeld.snoc (h : SocketHeld fd moves) (hm : m.ofSocket = false) :
    SocketHeld fd (moves ++ [m]) := by
  obtain ⟨port, mid, rfl, hmid⟩ := h
  refine ⟨port, mid ++ [m], rfl, ?_⟩
  intro m' hm'
  rcases List.mem_append.mp hm' with hmem | hlast
  · exact hmid m' hmem
  · rw [List.mem_singleton.mp hlast]
    exact hm

theorem SocketHeld.first (h : SocketHeld fd moves) {fd' : Int}
    (hmem : .call (.dataSocket (.bound fd' port)) ∈ moves) :
    fd' = fd ∧ ∃ mid, moves = .call (.dataSocket (.bound fd' port)) :: mid ∧
      ∀ m ∈ mid, m.ofSocket = false := by
  obtain ⟨port', mid, rfl, hmid⟩ := h
  rcases List.mem_cons.mp hmem with hfirst | hrest
  · obtain ⟨rfl, rfl⟩ := DataSocket.bound.inj (Event.dataSocket.inj (ProgramMove.call.inj hfirst))
    exact ⟨rfl, mid, rfl, hmid⟩
  · exact absurd (hmid _ hrest) (by simp [ProgramMove.ofSocket])

/-- A socket that is closed last is released. -/
theorem SocketHeld.close (h : SocketHeld fd moves)
    (hfiles : filesOpened moves = filesClosed moves) :
    Released (moves ++ [.call (.close fd)]) := by
  constructor
  · rw [filesOpened_snoc, filesClosed_snoc, hfiles]
    rfl
  · intro fd' port hpositive hmem
    have hbefore : .call (.dataSocket (.bound fd' port)) ∈ moves := by
      rcases List.mem_append.mp hmem with hmem | hlast
      · exact hmem
      · simp at hlast
    obtain ⟨rfl, mid, heq, hmid⟩ := h.first hbefore
    exact ⟨mid, by rw [heq]; rfl, hmid⟩

/-- `tftp_free_operation_data` leaves a socket alone that is not above zero. -/
theorem SocketHeld.left (h : SocketHeld fd moves) (hfd : ¬ fd > 0)
    (hfiles : filesOpened moves = filesClosed moves) : Released moves := by
  refine ⟨hfiles, ?_⟩
  intro fd' port hpositive hmem
  obtain ⟨rfl, -⟩ := h.first hmem
  omega

end Traces

section Steps

variable {host : Host} {mem : ListenerMemory} {s s' : ProgramState} {m : ProgramMove}
  {moves : List ProgramMove} {status : Nat}

theorem holds_afterOperation {state : ClientState} {fd : Int} (hasked : state.Asked = true)
    (htidy : state.Tidy)
    (hfiles : state = .fault ∨ filesOpened moves = filesClosed moves + state.files)
    (hheld : SocketHeld fd moves) (hfd : ∀ op, state.operation = some op → op.dataSocket = fd) :
    (ProgramState.afterOperation state).Holds moves := by
  unfold ProgramState.afterOperation
  split
  · rename_i op outcome
    have hsocket : op.dataSocket = fd := hfd op rfl
    have hnone : filesOpened moves = filesClosed moves := by
      rcases hfiles with hfault | hfiles
      · cases hfault
      · exact hfiles
    split
    · rw [← hsocket] at hheld
      exact ⟨hheld, hnone⟩
    · rename_i hnot
      rw [hsocket] at hnot
      exact hheld.left hnot hnone
  · cases hasked
  · trivial
  · rename_i hfault
    rcases hfiles with heq | hfiles
    · exact absurd heq hfault
    · exact ⟨htidy, hfiles, fd, hheld, hfd⟩

/-- A client with an operation that was accepted has a request to make. -/
theorem start_requests {op : OperationData} (hmode : op.transferMode = .octet)
    (hopcode : (requestOpcode op.operationId).isSome = true) :
    ClientState.start op = .fault ∨ ∃ packet, ClientState.start op = .requesting op packet := by
  obtain ⟨opcode, hopcode⟩ := Option.isSome_iff_exists.mp hopcode
  unfold ClientState.start
  cases hpacket : sendRequestPacket op with
  | none => exact Or.inl rfl
  | some result =>
      cases result with
      | built packet => exact Or.inr ⟨packet, rfl⟩
      | exits =>
          simp only [sendRequestPacket, Option.bind_eq_bind, Option.bind_eq_some_iff] at hpacket
          obtain ⟨⟨name, filenameLen⟩, -, hpacket⟩ := hpacket
          simp only [hmode, reduceCtorEq, and_false, if_false, hopcode,
            Option.bind_eq_some_iff, Option.some.injEq, exists_false] at hpacket

theorem holds_onInitialized {args : InitArguments} (hport : args.peer.port = 69)
    (hopcode : (requestOpcode args.operation).isSome = true) (socket : DataSocket) :
    (ProgramState.onInitialized args socket).Holds [.call (.dataSocket socket)] := by
  unfold ProgramState.onInitialized
  cases houtcome : tftpInitOperationData socket args with
  | none => trivial
  | some outcome =>
      cases socket with
      | exits =>
          cases init_returned houtcome with
          | exits => exact ⟨rfl, by simp⟩
      | bound fd port =>
          have hsocket := initOperation_socket houtcome
          have hheld : SocketHeld fd [.call (.dataSocket (.bound fd port))] :=
            ⟨port, [], rfl, by simp⟩
          cases outcome with
          | exits => cases hsocket
          | rejected fd' reply =>
              obtain rfl := Option.some.inj hsocket
              have hsilent : forwardsErrors args.peer = false := by
                rw [forwardsErrors, hport]
                rfl
              simp only [hsilent, Bool.false_eq_true, if_false, ProgramState.discard]
              split
              · exact ⟨hheld, rfl⟩
              · rename_i hnot
                exact hheld.left hnot rfl
          | created op =>
              have hfd : op.dataSocket = fd := Option.some.inj hsocket
              obtain ⟨_, _, path, heq, hpath⟩ := created_bound houtcome
              obtain ⟨hid, -, -, hmode, -⟩ := created_fields houtcome hpath
              rw [← hid] at hopcode
              rcases start_requests hmode hopcode with hfault | ⟨packet, hrequest⟩
              · simp only [hfault]
                trivial
              · simp only [hrequest]
                refine ⟨trivial, rfl, fd, hheld, ?_⟩
                intro op' hop'
                obtain rfl := Option.some.inj hop'
                exact hfd

theorem holds_step (h : s.Holds moves) (hstep : program host mem s m = some s') :
    s'.Holds (moves ++ [m]) := by
  unfold program at hstep
  split at hstep
  case h_1 => cases h
  case h_2 => cases h
  case h_3 args socket =>
    obtain rfl := Option.some.inj hstep
    obtain ⟨rfl, hport, hopcode⟩ := h
    exact holds_onInitialized hport hopcode socket
  case h_4 => cases h
  case h_5 fd closed =>
    obtain ⟨rfl, hnext⟩ := Option.ite_none_right_eq_some.mp hstep
    obtain rfl := Option.some.inj hnext
    exact h.1.close h.2
  case h_6 state e =>
    obtain ⟨state', hcall, rfl⟩ := Option.map_eq_some_iff.mp hstep
    obtain ⟨htidy, hfiles, fd, hheld, hfd⟩ := h
    have haccounts := ClientState.accounts_step htidy hcall
    obtain ⟨hcloses, hsockets⟩ := haccounts.leaves
    have hafter : SocketHeld fd (moves ++ [.call e]) := by
      apply hheld.snoc
      cases e with
      | close fd => exact absurd rfl (hcloses fd)
      | dataSocket result => exact absurd rfl (hsockets result)
      | _ => rfl
    refine holds_afterOperation (ClientState.asked_step hcall) haccounts.tidy ?_ hafter ?_
    · rcases haccounts.files with hfault | hbalance
      · exact Or.inl hfault
      · right
        rw [filesOpened_snoc, filesClosed_snoc]
        simp only [ProgramMove.opened, ProgramMove.closed]
        omega
    · intro op' hop'
      obtain ⟨op, hop, hsame⟩ := haccounts.socket op' hop'
      exact hsame.trans (hfd op hop)
  case h_7 op outcome closed =>
    obtain ⟨rfl, hnext⟩ := Option.ite_none_right_eq_some.mp hstep
    obtain rfl := Option.some.inj hnext
    exact h.1.close h.2
  case h_8 => cases hstep

/-- On the way at most one file is open. -/
theorem atMostOne_of_holds (h : s.Holds moves) (hfault : s ≠ .fault) :
    filesClosed moves ≤ filesOpened moves ∧ filesOpened moves ≤ filesClosed moves + 1 := by
  cases s with
  | initializing args =>
      obtain ⟨rfl, -⟩ := h
      exact ⟨le_refl _, Nat.zero_le _⟩
  | discarding fd =>
      rw [h.2]
      exact ⟨le_refl _, Nat.le_succ _⟩
  | operating state =>
      obtain ⟨-, hfiles, -⟩ := h
      have hle := state.files_le
      omega
  | closing op outcome =>
      rw [h.2]
      exact ⟨le_refl _, Nat.le_succ _⟩
  | exited status =>
      rw [h.1]
      exact ⟨le_refl _, Nat.le_succ _⟩
  | fault => exact absurd rfl hfault
  | _ => cases h

variable {line : CommandLine} {stack : UInt32} {name : List UInt8} {operation : OperationId}

/-- However a client comes to its end, it has closed every file it opened, one at a time, and
the data socket it bound first is what it closes last. -/
theorem client_releases (hmode : (name, operation) ∈ clientModes) (hname : line.name = some name)
    (hargc : 4 ≤ line.argv.length)
    (hrun : Run (program host mem) (.start stack line.argv) moves (.exited status)) :
    (∀ pre post, moves = pre ++ post →
      filesClosed pre ≤ filesOpened pre ∧ filesOpened pre ≤ filesClosed pre + 1) ∧
    filesOpened moves = filesClosed moves ∧
    ∀ fd port, 0 < fd → .call (.dataSocket (.bound fd port)) ∈ moves →
      ∃ mid, moves = .call (.dataSocket (.bound fd port)) :: (mid ++ [.call (.close fd)]) ∧
        ∀ m ∈ mid, m.ofSocket = false := by
  obtain ⟨address, path, -, -, hstart⟩ := start_client stack hmode hname hargc
  have hopcode : (requestOpcode operation).isSome = true := by
    simp only [clientModes, List.mem_cons, Prod.mk.injEq, List.not_mem_nil, or_false] at hmode
    rcases hmode with ⟨-, rfl⟩ | ⟨-, rfl⟩ | ⟨-, rfl⟩ <;> rfl
  have hholds : ∀ {pre t}, Run (program host mem) (.start stack line.argv) pre t →
      t.Holds pre := by
    intro pre t hpre
    rw [hstart] at hpre
    exact hpre.traced (I := fun moves s => s.Holds moves)
      (fun _ _ _ _ h hstep => holds_step h hstep) ⟨rfl, rfl, hopcode⟩
  refine ⟨?_, hholds hrun⟩
  intro pre post heq
  rw [heq] at hrun
  obtain ⟨t, hpre, hpost⟩ := hrun.split
  apply atMostOne_of_holds (hholds hpre)
  rintro rfl
  -- a memory error is not got over
  cases post with
  | nil => cases hpost.eq_of_nil
  | cons m post =>
      obtain ⟨u, hstep, -⟩ := hpost.of_cons
      cases m <;> cases hstep

end Steps

section FixedRuns

/-- The write of a client that gets no buffers for its packets. -/
def starvedWrite : List ProgramMove :=
  .call (.dataSocket (.bound 4 40001)) :: starvedHistory.map ProgramMove.call ++
    [.call (.sendto (localhost 40001) (errorPacket starvedReply) true), .call (.fclose 0),
      .call (.close 4)]

set_option maxRecDepth 8000 in
theorem client_releases_starved :
    Run (program littleHost .strict) (.start 0 writeLine.argv) starvedWrite (.exited 0) ∧
      filesOpened starvedWrite = filesClosed starvedWrite ∧
      ∃ mid, starvedWrite =
        .call (.dataSocket (.bound 4 40001)) :: (mid ++ [.call (.close 4)]) := by
  have hrun : Run (program littleHost .strict) (.start 0 writeLine.argv) starvedWrite
      (.exited 0) := run_iff_exec.mpr rfl
  have hmode : (ascii "write", OperationId.send) ∈ clientModes := by decide
  obtain ⟨-, hfiles, hsocket⟩ := client_releases hmode (by decide) (by decide) hrun
  obtain ⟨mid, heq, -⟩ := hsocket 4 40001 (by decide) (by simp [starvedWrite])
  exact ⟨hrun, hfiles, mid, heq⟩

end FixedRuns

end Stftpu
