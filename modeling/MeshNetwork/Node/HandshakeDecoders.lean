import MeshNetwork.Driver.Sockets

namespace MeshNetwork.Node

open Driver

/-- The bytes that one recv of at most `n` bytes gives its caller, `none` when it fails. -/
def firstBytes (n : Nat) (s : PeerSocket) (o : RecvOutcome) : Option (List UInt8) :=
  if s.isOpened = true ∧ o.status = .success then some (o.bytes.take n) else none

/-- Six bytes or more, which begin with a tag and the ID. -/
def Announces (message : Option (List UInt8)) (ID : UInt32) : Prop :=
  ∃ a b c d rest, message = some (tagI :: tagD :: a :: b :: c :: d :: rest) ∧
    ID = ofBigEndian a b c d

/-- A decoder, which gives a status and leaves the socket for each content of its stack, accepts the
messages that announce an ID and closes the socket on everything else. -/
structure RejectsElse (message : Option (List UInt8))
    (decode : (Nat → UInt8) → SocketIpStatus × PeerSocket) : Prop where
  accepts : ∀ ID, Announces message ID → ∀ stack,
    (decode stack).1 = .success ∧ (decode stack).2.deviceID = ID
  rejects : (¬∃ ID, Announces message ID) → ∀ stack,
    (decode stack).1 ≠ .success ∧ (decode stack).2.isOpened = false
  received_only : ∀ stack stack', (decode stack).2.deviceID = (decode stack').2.deviceID

/-- The message is whole, or both letters of its tag are there and wrong, or the recv fails. -/
def Discernible (message : Option (List UInt8)) : Prop :=
  message = none ∨ (∃ ID, Announces message ID) ∨
    ∃ x y rest, message = some (x :: y :: rest) ∧ x ≠ tagI ∧ y ≠ tagD

section cases

variable {n : Nat} {s : PeerSocket} {o : RecvOutcome} {stack : Nat → UInt8}

/-- A recv that fails, or a message without either letter, closes the socket and keeps the ID. -/
theorem recvID_refused (h : ∀ m, firstBytes n s o = some m →
    fill m stack 0 ≠ tagI ∧ fill m stack 1 ≠ tagD) :
    (s.recvID n o stack).status ≠ .success ∧ (s.recvID n o stack).socket = s.baseClose := by
  rcases s.recvID_cases n o stack with ⟨-, hopen, ⟨hs, htag⟩, -⟩ | hfail
  · obtain ⟨hfirst, hsecond⟩ := h (o.bytes.take n) (if_pos ⟨hopen, hs⟩)
    rcases htag with htag | htag
    · exact absurd htag hfirst
    · exact absurd htag hsecond
  · exact hfail

/-- One of the two letters is enough, received or not. -/
theorem recvID_accepted {m : List UInt8} (hm : firstBytes n s o = some m)
    (htag : fill m stack 0 = tagI ∨ fill m stack 1 = tagD) :
    (s.recvID n o stack).status = .success ∧
      (s.recvID n o stack).socket = { s with deviceID := PeerSocket.idIn m stack } := by
  unfold firstBytes at hm
  split_ifs at hm with h
  obtain rfl := Option.some.inj hm
  rcases htag with htag | htag <;>
    simp [PeerSocket.recvID, PeerSocket.recv, PeerSocket.idIn, h.1, h.2, htag]

end cases

/-- The stack contents that complete every message to one with a right letter. -/
def idStack : Nat → UInt8
  | 0 => tagI
  | 1 => tagD
  | _ => 0

/-- The shared body of the two decoders rejects everything else exactly for the discernible
messages. -/
theorem recvID_rejectsElse {n : Nat} (s : PeerSocket) (o : RecvOutcome) :
    RejectsElse (firstBytes n s o)
        (fun stack => ((s.recvID n o stack).status, (s.recvID n o stack).socket)) ↔
      Discernible (firstBytes n s o) := by
  constructor
  · intro h
    by_contra hno
    obtain ⟨hnone, hannounce, hwrong⟩ : firstBytes n s o ≠ none ∧
        (¬∃ ID, Announces (firstBytes n s o) ID) ∧ ¬∃ x y rest,
          firstBytes n s o = some (x :: y :: rest) ∧ x ≠ tagI ∧ y ≠ tagD := by
      simpa [Discernible] using hno
    obtain ⟨m, hm⟩ := Option.ne_none_iff_exists'.mp hnone
    -- a letter that is missing may be found on the stack
    have htag : fill m idStack 0 = tagI ∨ fill m idStack 1 = tagD := by
      match m with
      | [] => exact .inl rfl
      | [x] => exact .inr rfl
      | x :: y :: rest =>
        by_contra hne
        obtain ⟨hfirst, hsecond⟩ := not_or.mp hne
        exact hwrong ⟨x, y, rest, hm, hfirst, hsecond⟩
    exact (h.rejects hannounce idStack).1 (recvID_accepted hm htag).1
  · intro h
    -- a socket that refuses whatever the stack holds
    have refuses (hno : ¬∃ ID, Announces (firstBytes n s o) ID) (stack : Nat → UInt8) :
        (s.recvID n o stack).status ≠ .success ∧ (s.recvID n o stack).socket = s.baseClose := by
      apply recvID_refused
      intro m hm
      rcases h with hnone | hannounce | ⟨x, y, rest, hwrong, hfirst, hsecond⟩
      · cases hnone.symm.trans hm
      · exact absurd hannounce hno
      · obtain rfl := Option.some.inj (hwrong.symm.trans hm)
        exact ⟨hfirst, hsecond⟩
    have accepts (ID : UInt32) (hID : Announces (firstBytes n s o) ID) (stack : Nat → UInt8) :
        (s.recvID n o stack).status = .success ∧
          (s.recvID n o stack).socket.deviceID = ID := by
      obtain ⟨a, b, c, d, rest, hm, rfl⟩ := hID
      have htag : fill (tagI :: tagD :: a :: b :: c :: d :: rest) stack 0 = tagI := rfl
      obtain ⟨hstatus, hsocket⟩ := recvID_accepted hm (.inl htag)
      rw [hsocket]
      exact ⟨hstatus, rfl⟩
    refine ⟨accepts, ?_, ?_⟩
    · intro hno stack
      obtain ⟨hstatus, hsocket⟩ := refuses hno stack
      exact ⟨hstatus, by simp [hsocket, PeerSocket.isOpened]⟩
    · intro stack stack'
      by_cases hID : ∃ ID, Announces (firstBytes n s o) ID
      · obtain ⟨ID, hID⟩ := hID
        exact (accepts ID hID stack).2.trans (accepts ID hID stack').2.symm
      · simp only [(refuses hID stack).2, (refuses hID stack').2]

/-- Both handshake decoders reject everything else for exactly the messages that are whole or have
both letters wrong, and when the recv fails. -/
theorem handshake_decoders (server : MultiTcpServerSocket) (client : MultiTcpClientSocket)
    (o : RecvOutcome) :
    (RejectsElse (firstBytes 6 server.toPeerSocket o) (fun stack =>
        ((server.recvClientID o stack).1, (server.recvClientID o stack).2.toPeerSocket)) ↔
      Discernible (firstBytes 6 server.toPeerSocket o)) ∧
    (RejectsElse (firstBytes 24 client.toPeerSocket o) (fun stack =>
        ((client.recvSrvrID o stack).1, (client.recvSrvrID o stack).2.toPeerSocket)) ↔
      Discernible (firstBytes 24 client.toPeerSocket o)) := by
  constructor
  · exact recvID_rejectsElse server.toPeerSocket o
  · exact recvID_rejectsElse client.toPeerSocket o

/-- Two bytes of which the first is an `'I'` are taken for an ID. -/
theorem handshake_decoders_fails : ¬∀ (s : MultiTcpServerSocket) (o : RecvOutcome),
    RejectsElse (firstBytes 6 s.toPeerSocket o)
      (fun stack => ((s.recvClientID o stack).1, (s.recvClientID o stack).2.toPeerSocket)) := by
  intro h
  have hreject := h { fd := some 0 } { status := .success, bytes := [0x49, 0x58], size := 2 }
  refine (hreject.rejects ?_ fun _ => 0).1 (by decide)
  intro h
  obtain ⟨ID, a, b, c, d, rest, hm, -⟩ := h
  simp [firstBytes, PeerSocket.isOpened] at hm

end MeshNetwork.Node
