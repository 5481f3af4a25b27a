import MeshNetwork.Driver.ServerManager

namespace MeshNetwork.Driver

/-- The descriptors of the process: which are open, which of them listen for clients, and the one
that each connection has. -/
structure Kernel where
  opened : Int → Bool := fun _ => false
  listening : Int → Bool := fun _ => false
  descriptor : Conn → Int := fun c => c

namespace Kernel

def socket (k : Kernel) (fd : Int) : Kernel :=
  { k with
    opened := Function.update k.opened fd true
    listening := Function.update k.listening fd false }

/-- `close`; a number that is not a descriptor, as -1, changes nothing. -/
def close (k : Kernel) (fd : Int) : Kernel :=
  { k with
    opened := Function.update k.opened fd false
    listening := Function.update k.listening fd false }

def listen (k : Kernel) (fd : Int) : Kernel :=
  { k with listening := Function.update k.listening fd true }

/-- `IpSocket::close` closes the descriptor of its connection, if there is one. -/
def closeSocket (k : Kernel) (s : PeerSocket) : Kernel :=
  match s.fd with
  | none => k
  | some c => k.close (k.descriptor c)

end Kernel

/-- The server with what no task looks at: the serverFd of each socket of the pool, which has no
value before the first startup, the set of descriptors for select, and the kernel. -/
structure Server where
  serverFd : Fin maxClients → Int
  kernel : Kernel := {}
  manager : MultiTcpServerManager := {}
  listenerSocket : Int → Bool := fun _ => false

/-- The outcomes of the calls in startup: the descriptor that socket gives, if it gives one, and
whether the conversion of the address, bind and listen succeed. -/
structure StartupEnv where
  socket : Option Int
  addressToIp4 : Bool := true
  bind : Bool := true
  listen : Bool := true

namespace Server

def closeAll (s : Server) : Server :=
  { s with
    kernel := (List.finRange maxClients).foldl
      (fun k i => k.closeSocket (s.manager.sockets i).toPeerSocket) s.kernel
    manager := s.manager.closeAll }

def shutdown (s : Server) : Server :=
  closeAll { s with
    kernel := s.kernel.close s.manager.baseFd
    manager := { s.manager with baseFd := -1 } }

/-- `MultiTcpServerSocket::setServerFd`. -/
def setServerFd (s : Server) (i : Fin maxClients) (fd : Int) : Server :=
  { s with serverFd := Function.update s.serverFd i fd }

/-- `m_base_fd` is set, and then the descriptor of each socket of the pool. -/
def install (s : Server) (fd : Int) : Server :=
  (List.finRange maxClients).foldl (fun s i => s.setServerFd i fd)
    { s with manager := { s.manager with baseFd := fd } }

def startup (env : StartupEnv) (s : Server) : SocketIpStatus × Server :=
  let s := s.shutdown
  match env.socket with
  | none => (.failedToGetSocket, s)
  | some serverFd =>
    let s := { s with kernel := s.kernel.socket serverFd }
    if env.addressToIp4 = false then
      (.invalidIpAddress, { s with kernel := s.kernel.close serverFd })
    else if env.bind = false then (.failedToBind, { s with kernel := s.kernel.close serverFd })
    else
      let s := s.install serverFd
      if env.listen = false then (.failedToListen, { s with kernel := s.kernel.close serverFd })
      else
        (.success,
          { s with
            kernel := s.kernel.listen serverFd
            listenerSocket := Function.update s.listenerSocket serverFd true })

/-- The pool goes through the shutdown that the tasks see. -/
theorem shutdown_manager (s : Server) : s.shutdown.manager = s.manager.shutdown := rfl

end Server

/-- Neither a socket of the pool nor the set for select names a descriptor that is closed. -/
structure NamesOpen (s : Server) : Prop where
  pool : ∀ i, 0 ≤ s.serverFd i → s.kernel.opened (s.serverFd i) = true
  listener : ∀ fd, s.listenerSocket fd = true → s.kernel.opened fd = true

/-- Startup has gone through: one open and listening descriptor, in all four places. -/
structure Up (s : Server) : Prop where
  opened : s.kernel.opened s.manager.baseFd = true
  listening : s.kernel.listening s.manager.baseFd = true
  pool : ∀ i, s.serverFd i = s.manager.baseFd
  listener : ∀ fd, s.listenerSocket fd = true ↔ fd = s.manager.baseFd

/-- Startup has been undone. -/
structure Down (acquired : Option Int) (s : Server) : Prop where
  closed : ∀ fd ∈ acquired, s.kernel.opened fd = false
  base : s.manager.baseFd = -1
  names : NamesOpen s

/-- Success and everything is in place, or an error and nothing is left. -/
def AllOrNothing (env : StartupEnv) (s : Server) : Prop :=
  if (s.startup env).1 = .success then Up (s.startup env).2
  else Down env.socket (s.startup env).2

/-- A descriptor that shutdown leaves open. -/
def StaysOpen (s : Server) (fd : Int) : Prop :=
  s.kernel.opened fd = true ∧ fd ≠ s.manager.baseFd ∧
    ∀ i, ∀ c ∈ (s.manager.sockets i).fd, s.kernel.descriptor c ≠ fd

/-- Where a call before listen fails, the descriptors named by the pool and the set for select stay
open in the shutdown; and else listen succeeds, and the set names no other descriptor than the new
one. -/
def StartupClean (env : StartupEnv) (s : Server) : Prop :=
  if env.socket = none ∨ env.addressToIp4 = false ∨ env.bind = false then
    (∀ i, 0 ≤ s.serverFd i → StaysOpen s (s.serverFd i)) ∧
      ∀ fd, s.listenerSocket fd = true → StaysOpen s fd
  else env.listen = true ∧ ∀ fd, s.listenerSocket fd = true → env.socket = some fd

section kernel

variable (k : Kernel)

theorem close_opened (fd d : Int) : (k.close d).opened fd = true ↔ k.opened fd = true ∧ d ≠ fd := by
  by_cases hd : fd = d
  · subst hd
    simp [Kernel.close]
  · simp [Kernel.close, hd, Ne.symm hd]

theorem closeSocket_opened (s : PeerSocket) (fd : Int) : (k.closeSocket s).opened fd = true ↔
    k.opened fd = true ∧ ∀ c ∈ s.fd, k.descriptor c ≠ fd := by
  unfold Kernel.closeSocket
  cases s.fd with
  | none => simp
  | some c => simpa using close_opened k fd (k.descriptor c)

theorem closeSocket_descriptor (s : PeerSocket) : (k.closeSocket s).descriptor = k.descriptor := by
  unfold Kernel.closeSocket
  cases s.fd <;> rfl

/-- Closing sockets one after the other closes the descriptors of their connections. -/
theorem closeSockets_opened (sockets : Fin maxClients → PeerSocket) (is : List (Fin maxClients))
    (fd : Int) : (is.foldl (fun k i => k.closeSocket (sockets i)) k).opened fd = true ↔
      k.opened fd = true ∧ ∀ i ∈ is, ∀ c ∈ (sockets i).fd, k.descriptor c ≠ fd := by
  induction is generalizing k with
  | nil => simp
  | cons i is ih =>
    rw [List.foldl_cons, ih, closeSocket_opened, closeSocket_descriptor, List.forall_mem_cons,
      and_assoc]

theorem shutdown_opened (s : Server) (fd : Int) :
    s.shutdown.kernel.opened fd = true ↔ StaysOpen s fd := by
  have hclose := closeSockets_opened (s.kernel.close s.manager.baseFd)
    (fun i => (s.manager.sockets i).toPeerSocket) (List.finRange maxClients) fd
  rw [close_opened] at hclose
  refine hclose.trans ?_
  simp only [StaysOpen, List.mem_finRange, forall_true_left, and_assoc, ne_comm, Kernel.close]

/-- What is opened and closed again is as it was. -/
theorem socket_close_opened {fd : Int} (hfd : k.opened fd = false) :
    ((k.socket fd).close fd).opened = k.opened := by
  funext d
  by_cases hd : d = fd
  · subst hd
    simp [Kernel.socket, Kernel.close, hfd]
  · simp [Kernel.socket, Kernel.close, hd]

end kernel

/-- An error before anything is installed. -/
theorem down_iff {acquired : Option Int} {s t : Server}
    (hclosed : ∀ fd ∈ acquired, s.shutdown.kernel.opened fd = false)
    (hopened : t.kernel.opened = s.shutdown.kernel.opened)
    (hmanager : t.manager = s.shutdown.manager) (hserver : t.serverFd = s.serverFd)
    (hlistener : t.listenerSocket = s.listenerSocket) :
    Down acquired t ↔ (∀ i, 0 ≤ s.serverFd i → StaysOpen s (s.serverFd i)) ∧
      ∀ fd, s.listenerSocket fd = true → StaysOpen s fd := by
  have hnames : NamesOpen t ↔ (∀ i, 0 ≤ s.serverFd i → StaysOpen s (s.serverFd i)) ∧
      ∀ fd, s.listenerSocket fd = true → StaysOpen s fd := by
    simp only [← shutdown_opened, ← hopened, ← hlistener, ← hserver]
    exact ⟨fun h => ⟨h.pool, h.listener⟩, fun h => ⟨h.1, h.2⟩⟩
  rw [← hnames]
  constructor
  · intro h
    exact h.names
  · intro h
    exact ⟨fun fd hfd => hopened ▸ hclosed fd hfd, hmanager ▸ rfl, h⟩

/-- The loop over the pool reaches each socket. -/
theorem install_eq (s : Server) (fd : Int) : s.install fd =
    { s with
      serverFd := fun _ => fd
      manager := { s.manager with baseFd := fd } } := by
  have hset (is : List (Fin maxClients)) (t : Server) :
      is.foldl (fun s i => s.setServerFd i fd) t =
        { t with serverFd := fun i => if i ∈ is then fd else t.serverFd i } := by
    induction is generalizing t with
    | nil => simp
    | cons i is ih =>
      rw [List.foldl_cons, ih, Server.setServerFd]
      congr 1
      funext j
      by_cases hj : j = i <;> simp [hj]
  simp [Server.install, hset, List.mem_finRange]

/-- Everything is installed; the set for select keeps what it had. -/
theorem up_iff (k : Kernel) (m : MultiTcpServerManager) (listener : Int → Bool) (fd : Int) :
    Up ⟨fun _ => fd, (k.socket fd).listen fd, { m with baseFd := fd },
      Function.update listener fd true⟩ ↔ ∀ d, listener d = true → fd = d := by
  constructor
  · intro h d hd
    by_contra hne
    have hlistener : Function.update listener fd true d = true := by
      rw [Function.update_of_ne (Ne.symm hne), hd]
    exact hne ((h.listener d).mp hlistener).symm
  · intro h
    refine ⟨?_, ?_, fun i => rfl, ?_⟩
    · exact Function.update_self (β := fun _ => Bool) fd true k.opened
    · exact Function.update_self (β := fun _ => Bool) fd true _
    · intro d
      constructor
      · intro hd
        by_contra hne
        have hkept : Function.update listener fd true d = listener d := Function.update_of_ne hne ..
        exact hne (h d (hkept ▸ hd)).symm
      · intro hd
        subst hd
        exact Function.update_self d true listener

/-- Startup. It is all or nothing if and only if what it finds is clean. -/
theorem startup_all_or_nothing (env : StartupEnv) (s : Server)
    (hsocket : ∀ fd ∈ env.socket, 0 ≤ fd ∧ s.shutdown.kernel.opened fd = false) :
    AllOrNothing env s ↔ StartupClean env s := by
  have hclosed : ∀ fd ∈ env.socket, s.shutdown.kernel.opened fd = false := by
    intro fd hfd
    exact (hsocket fd hfd).2
  unfold AllOrNothing StartupClean Server.startup
  cases hs : env.socket with
  | none =>
    simp only [reduceCtorEq, if_false, true_or, if_true]
    exact down_iff (by simp) rfl rfl rfl rfl
  | some fd =>
    obtain ⟨hnonneg, hfree⟩ := hsocket fd hs
    have hundone := socket_close_opened s.shutdown.kernel hfree
    rw [hs] at hclosed
    by_cases ha : env.addressToIp4 = false
    · simp only [ha, if_true, reduceCtorEq, if_false, false_or, true_or]
      exact down_iff hclosed hundone rfl rfl rfl
    · by_cases hb : env.bind = false
      · simp only [ha, hb, if_true, reduceCtorEq, if_false, or_true]
        exact down_iff hclosed hundone rfl rfl rfl
      · by_cases hl : env.listen = false
        · simp only [ha, hb, hl, if_true, reduceCtorEq, if_false, false_or, Bool.false_eq_true,
            false_and, iff_false]
          intro hdown
          have hbase : fd = -1 := hdown.base
          omega
        · simp only [ha, hb, hl, if_true, reduceCtorEq, if_false, false_or, Option.some.injEq]
          rw [true_and, install_eq]
          exact up_iff s.shutdown.kernel s.shutdown.manager s.listenerSocket fd

/-- The first startup. -/
theorem startup_first : AllOrNothing { socket := some 3 } { serverFd := fun _ => 7 } ↔
    StartupClean { socket := some 3 } { serverFd := fun _ => 7 } :=
  startup_all_or_nothing { socket := some 3 } { serverFd := fun _ => 7 } (by decide)

/-- listen fails, and `m_base_fd` and the pool are left with a descriptor that is closed. -/
theorem startup_fails : ¬∀ (env : StartupEnv) (s : Server),
    (∀ fd ∈ env.socket, 0 ≤ fd ∧ s.shutdown.kernel.opened fd = false) → AllOrNothing env s := by
  intro h
  have hdown : Down (some 3) _ :=
    h { socket := some 3, listen := false } { serverFd := fun _ => 7 } (by decide)
  exact absurd hdown.base (by decide)

end MeshNetwork.Driver
