import MeshNetwork.Driver.SendHandler

namespace MeshNetwork.Node

open Driver

section programs

variable {α β : Type}

/-- The program does not come to send to slot `i`. -/
def Spares (i : Fin maxClients) (c : SendM α) : Prop :=
  c.Calls Answers fun o => ∀ frame dest, o ≠ .send i frame dest

/-- The program does not come to send at all. -/
def Silent (c : SendM α) : Prop := c.Calls Answers fun o => ∀ i frame dest, o ≠ .send i frame dest

/-- What the program still does behind a send to slot `i` is as `Q i` says. -/
def Behind (Q : Fin maxClients → SendM α → Prop) : SendM α → Prop
  | .pure _ => True
  | .call o k => ∀ x, Answers o x →
      (∀ i frame dest, o = .send i frame dest → Q i (k x)) ∧ Behind Q (k x)

/-- The program sends to no slot for a second time. -/
def SendsOnce (c : SendM α) : Prop := Behind Spares c

/-- The program sends to one slot at most, and once. -/
def SendsToOne (c : SendM α) : Prop := Behind (fun _ => Silent) c

theorem Silent.spares {c : SendM α} (h : Silent c) (i : Fin maxClients) : Spares i c := by
  induction c with
  | pure a => trivial
  | call o k ih => exact ⟨h.1 i, fun x hx => ih x (h.2 x hx)⟩

theorem silent_of_spares {c : SendM α} (h : ∀ i, Spares i c) : Silent c := by
  induction c with
  | pure a => trivial
  | call o k ih => exact ⟨fun i => (h i).1, fun x hx => ih x fun i => (h i).2 x hx⟩

variable {Q : Fin maxClients → SendM α → Prop}

theorem Silent.behind {c : SendM α} (h : Silent c) : Behind Q c := by
  induction c with
  | pure a => trivial
  | call o k ih =>
    intro x hx
    refine ⟨?_, ih x (h.2 x hx)⟩
    intro i frame dest ho
    exact absurd ho (h.1 i frame dest)

theorem Behind.mono {Q' : Fin maxClients → SendM α → Prop} {c : SendM α} (h : Behind Q c)
    (hQ : ∀ i c', Q i c' → Q' i c') : Behind Q' c := by
  induction c with
  | pure a => trivial
  | call o k ih =>
    intro x hx
    refine ⟨?_, ih x (h x hx).2⟩
    intro i frame dest ho
    exact hQ i _ ((h x hx).1 i frame dest ho)

theorem SendsToOne.sendsOnce {c : SendM α} (h : SendsToOne c) : SendsOnce c :=
  h.mono fun i _ hc => hc.spares i

/-- Before and behind a silent part. -/
theorem behind_silent_bind {c : SendM β} {f : β → SendM α} (hc : Silent c)
    (hf : ∀ a, Behind Q (f a)) : Behind Q (c >>= f) := by
  induction c with
  | pure a => exact hf a
  | call o k ih =>
    intro x hx
    refine ⟨?_, ih x (hc.2 x hx)⟩
    intro i frame dest ho
    exact absurd ho (hc.1 i frame dest)

theorem sendsOnce_bind_silent {c : SendM α} {f : α → SendM β} (hc : SendsOnce c)
    (hf : ∀ a, Silent (f a)) : SendsOnce (c >>= f) := by
  induction c with
  | pure a => exact (hf a).behind
  | call o k ih =>
    intro x hx
    obtain ⟨hspares, honce⟩ := hc x hx
    refine ⟨?_, ih x honce⟩
    intro i frame dest ho
    exact Prog.calls_bind (hspares i frame dest ho) fun a => (hf a).spares i

end programs

section sendHandler

variable {frame : List UInt8}

theorem broadcast_spares {i : Fin maxClients} {is : List (Fin maxClients)} (hi : i ∉ is)
    (status : SocketIpStatus) : Spares i (broadcast frame status is) := by
  induction is generalizing status with
  | nil => trivial
  | cons j is ih =>
    obtain ⟨hij, his⟩ := not_or.mp (mt List.mem_cons.mpr hi)
    refine ⟨by simp, ?_⟩
    intro opened _
    cases opened with
    | false => exact ih his status
    | true =>
      refine ⟨by simp, ?_⟩
      intro id _
      refine ⟨by simp, ?_⟩
      intro answer _
      rcases answer with _ | _ | _
      · trivial
      · exact ih his status
      · exact ⟨by simp [Ne.symm hij], fun r _ => ih his r.1⟩

/-- The loop comes to each slot once. -/
theorem broadcast_sendsOnce {is : List (Fin maxClients)} (his : is.Nodup)
    (status : SocketIpStatus) : SendsOnce (broadcast frame status is) := by
  induction is generalizing status with
  | nil => trivial
  | cons j is ih =>
    obtain ⟨hj, his⟩ := List.nodup_cons.mp his
    intro opened _
    refine ⟨by simp, ?_⟩
    cases opened with
    | false => exact ih his status
    | true =>
      intro id _
      refine ⟨by simp, ?_⟩
      intro answer _
      refine ⟨by simp, ?_⟩
      rcases answer with _ | _ | _
      · trivial
      · exact ih his status
      · intro r _
        refine ⟨?_, ih his r.1⟩
        intro i frame' dest ho
        obtain ⟨rfl, -⟩ := SendOp.send.inj ho
        exact broadcast_spares hj r.1

theorem release_silent (status : Option SendStatus) :
    Silent (SendM.deallocateOut >>= fun _ => pure status : SendM _) :=
  ⟨by simp, fun _ _ => trivial⟩

/-- One send, and nothing is sent behind it. -/
theorem unicast_sendsToOne (receiverID : UInt32) : SendsToOne (unicast frame receiverID) := by
  have after (r : SocketIpStatus × Bool) : Silent (SendM.deallocateOut >>= fun _ =>
      afterUnicast receiverID r.1 r.2 : SendM _) :=
    ⟨by simp, fun _ _ => afterUnicast_calls (by simp) (by simp) r.1 r.2⟩
  intro answer _
  refine ⟨by simp, ?_⟩
  rcases answer with _ | _ | _
  · trivial
  · exact (release_silent _).behind
  · intro connected _
    refine ⟨by simp, ?_⟩
    cases connected with
    | false => exact (release_silent _).behind
    | true =>
      intro slot _
      refine ⟨by simp, ?_⟩
      cases slot with
      | none => trivial
      | some i =>
        intro r _
        exact ⟨fun _ _ _ _ => after r, (after r).behind⟩

theorem sendToAll_sendsOnce (unset : SocketIpStatus) : SendsOnce (sendToAll frame unset) := by
  refine sendsOnce_bind_silent (broadcast_sendsOnce (List.nodup_finRange _) unset) ?_
  intro kept
  cases kept with
  | none => trivial
  | some status => exact release_silent _

theorem readHeader_silent (b : FwBuffer) : Silent (readHeader b) :=
  readHeader_calls (by simp) (by simp) b

/-- A call offers its frame to each slot once at most. -/
theorem sendHandler_sendsOnce (idProtocol : Bool) (unset : SocketIpStatus) (b : FwBuffer) :
    SendsOnce (sendHandler idProtocol unset b) := by
  have header : Silent (if idProtocol then readHeader b else pure 0) := by
    split_ifs
    · exact readHeader_silent b
    · trivial
  refine behind_silent_bind header ?_
  intro receiverID
  split_ifs
  · exact sendToAll_sendsOnce unset
  · exact (unicast_sendsToOne receiverID).sendsOnce

/-- With the ID protocol on, what is sent is the buffer, and to the receiver that the scan has
found. -/
theorem sendHandler_sends {P : SendOp → Prop} (b : FwBuffer)
    (hother : ∀ o, (∀ i data dest, o ≠ .send i data dest) → P o)
    (hsend : ∀ i, P (.send i b.contents (headerScan b).receiverID)) (unset : SocketIpStatus) :
    (sendHandler true unset b).Calls Answers P := by
  have branch : (if (headerScan b).receiverID = broadcastID then sendToAll b.contents unset
      else unicast b.contents (headerScan b).receiverID).Calls Answers P := by
    split_ifs with hbc
    · rw [hbc] at hsend
      exact sendToAll_calls hother hsend unset
    · exact unicast_calls hother fun _ => hsend
  have hread (positions : List Nat) : P (.readBytes positions) := hother _ (by simp)
  -- the header is read and tested, and the scan stands
  refine ⟨hread _, ?_⟩
  intro _ _
  unfold checkHeader
  split_ifs
  · exact ⟨hread _, fun _ _ => ⟨hother _ (by simp), fun _ _ => branch⟩⟩
  · exact ⟨hread _, fun _ _ => branch⟩
  · exact ⟨hread _, fun _ _ => branch⟩

/-- A frame for one node goes out once at most. -/
theorem sendHandler_sendsToOne (b : FwBuffer) (hdest : (headerScan b).receiverID ≠ broadcastID)
    (unset : SocketIpStatus) : SendsToOne (sendHandler true unset b) := by
  have unicasts : SendsToOne (if (headerScan b).receiverID = broadcastID then
      sendToAll b.contents unset else unicast b.contents (headerScan b).receiverID) := by
    rw [if_neg hdest]
    exact unicast_sendsToOne _
  intro _ _
  refine ⟨by simp, ?_⟩
  unfold checkHeader
  split_ifs
  · exact fun _ _ => ⟨by simp, fun _ _ => ⟨by simp, unicasts⟩⟩
  · exact fun _ _ => ⟨by simp, unicasts⟩
  · exact fun _ _ => ⟨by simp, unicasts⟩

end sendHandler

end MeshNetwork.Node
