import Mathlib.Data.List.Basic
import LiveBroadcast.Foundation.ContentLength
import LiveBroadcast.Foundation.Interleaving
import LiveBroadcast.Foundation.Runs
import LiveBroadcast.Foundation.TaskQueue
import LiveBroadcast.Network.TcpConnection
import LiveBroadcast.Utils.LoggerStream

/-!
# The connections of a server

The acceptor runs in the base loop. For a connection that is accepted, `OnNewConnection` writes a
name with the number of the connection behind the address of its peer, takes the next loop of the
pool, enters the connection in the map, and hands `Established` to that loop. Only then its channel
is readable, and what closes it comes from that loop again. When `accept` fails the log statement
ends the process.

The number is an `int`, and its overflow is taken to wrap: it goes on with the negative numbers
when it has reached the largest one. The name is written into 64 bytes, and what does not fit is
cut off; an address takes at most 52 of them. So the names are different for the first thousand
million connections, and that long the map has exactly the connections that were accepted and are
not closed. Connection `k` is the one that the `k`-th successful accept brought; it was given to
the loop whose turn it was, and is established there once, in the order of the accepts
(`server_accounts`).

The base loop enters connections in the map and the loops of the pool take them out, and no mutex
guards it. Here each of these accesses is one step, as are `OnNewConnection` and `OnClose` around
them: what threads do to the map at the same time is not described.
-/

set_option autoImplicit false

namespace LiveBroadcast

open ContentLength

/-! ## Names -/

/-- A peer: what `inet_ntop` writes for its address, and its port. -/
structure PeerAddress where
  ipText : Bytes
  sinPort : BitVec 16
  length_le : ipText.length ≤ 45

namespace PeerAddress

/-- `ToIpPort`. The port is written as a signed number, into what is left of 64 bytes. -/
def toIpPort (address : PeerAddress) : Bytes :=
  address.ipText ++ (58 :: toDecimal address.sinPort.toInt).take (63 - address.ipText.length)

/-- The name of a connection, of which `snprintf` writes at most 63 bytes behind the name of the
server. -/
def connectionName (serverName : Bytes) (address : PeerAddress) (connectionId : BitVec 32) :
    Bytes :=
  serverName ++ (ascii "-" ++ address.toIpPort ++ ascii "#" ++ toDecimal connectionId.toInt).take 63

theorem toDecimal_eq (n : Nat) : toDecimal n = decimalString n := rfl

theorem length_toDecimal_port (port : BitVec 16) : (toDecimal port.toInt).length ≤ 6 := by
  have low : -32768 ≤ port.toInt := BitVec.le_toInt port
  have high : port.toInt < 32768 := BitVec.toInt_lt
  have digits : (Nat.toDigits 10 port.toInt.natAbs).length ≤ 5 :=
    (Nat.length_toDigits_le_iff (by decide) (by decide)).mpr (by omega)
  unfold toDecimal
  dsimp only
  split
  · rw [List.length_cons, List.length_map]
    omega
  · rw [List.length_map]
    omega

theorem length_toIpPort (address : PeerAddress) : address.toIpPort.length ≤ 52 := by
  have port := length_toDecimal_port address.sinPort
  have text := address.length_le
  rw [toIpPort, List.length_append, List.length_take, List.length_cons]
  omega

theorem toInt_ofNat_few {count : Nat} (few : count < 10 ^ 9) :
    (BitVec.ofNat 32 count).toInt = (count : Int) := by
  have same : (BitVec.ofNat 32 count).toNat = count := by
    rw [BitVec.toNat_ofNat]
    exact Nat.mod_eq_of_lt (Nat.lt_trans few (by decide))
  rw [BitVec.toInt_eq_toNat_of_lt (by omega), same]

/-- **A name is not cut off** for the first thousand million connections. -/
theorem connectionName_eq (serverName : Bytes) (address : PeerAddress) {count : Nat}
    (few : count < 10 ^ 9) :
    connectionName serverName address (BitVec.ofNat 32 count) =
      serverName ++ (ascii "-" ++ address.toIpPort ++ ascii "#" ++ decimalString count) := by
  have digits : (decimalString count).length ≤ 9 := by
    rw [decimalString, List.length_map]
    exact (Nat.length_toDigits_le_iff (by decide) (by decide)).mpr few
  have text := length_toIpPort address
  have dash : (ascii "-").length = 1 := rfl
  have hash : (ascii "#").length = 1 := rfl
  rw [connectionName, toInt_ofNat_few few, toDecimal_eq, List.take_of_length_le]
  simp only [List.length_append]
  omega

/-- What stands behind the last of a byte. -/
theorem behind_last {byte : UInt8} {front other back behind : Bytes} (absent : byte ∉ back)
    (absent' : byte ∉ behind) (same : front ++ byte :: back = other ++ byte :: behind) :
    back = behind := by
  have turned := congrArg List.reverse same
  simp only [List.reverse_append, List.reverse_cons, List.append_assoc, List.singleton_append]
    at turned
  have differs {list : Bytes} (absent : byte ∉ list) :
      ∀ x ∈ list.reverse, decide (x = byte) = false := by
    intro x inside
    rw [List.mem_reverse] at inside
    exact decide_eq_false fun same => absent (same ▸ inside)
  have parts := cut_unique (differs absent) (decide_eq_true rfl) (differs absent')
    (decide_eq_true rfl) turned
  exact List.reverse_injective parts.1

/-- **Connections with different numbers have different names.** -/
theorem connectionName_injective {serverName : Bytes} {address other : PeerAddress}
    {count otherCount : Nat} (few : count < 10 ^ 9) (few' : otherCount < 10 ^ 9)
    (same : connectionName serverName address (BitVec.ofNat 32 count) =
      connectionName serverName other (BitVec.ofNat 32 otherCount)) : count = otherCount := by
  rw [connectionName_eq _ _ few, connectionName_eq _ _ few', List.append_cancel_left_eq] at same
  have hash : ascii "#" = [35] := rfl
  rw [hash, List.append_assoc, List.append_assoc _ [35], List.singleton_append,
    List.singleton_append] at same
  have digits := behind_last (not_mem_decimalString (by decide) _)
    (not_mem_decimalString (by decide) _) same
  exact decimalString_injective digits

end PeerAddress

/-! ## The server -/

/-- The loops: the base loop, and those of the pool by their place. -/
inductive IoLoop where
  | base
  | thread (index : Nat)
  deriving DecidableEq, Repr

/-- A connection that was accepted. -/
structure AcceptedConnection where
  connectionName : Bytes
  ioLoop : IoLoop
  connectionStatus : ConnectionStatus
  deriving DecidableEq, Repr

/-- The server with the connections in the order in which they were made, and the calls of
`Established` that were handed to the loops. A pointer to a connection is its place in that
order. -/
structure TcpServer where
  connectionId : BitVec 32
  made : Nat
  nextThreadId : Nat
  connectionMap : Bytes → Option Nat
  connections : Nat → Option AcceptedConnection
  loops : IoLoop → TaskQueue Nat

/-- What the loops do. -/
inductive ServerEvent where
  /-- The acceptor is readable; `none` if `accept` fails. -/
  | onReadable (peer : Option PeerAddress)
  /-- `HandlePendingFunc` takes what is pending. -/
  | swapPendingFunc (loop : IoLoop)
  /-- `HandlePendingFunc` calls the next function. -/
  | callPendingFunc (loop : IoLoop)
  /-- `Shutdown` of a connection. -/
  | shutdown (connection : Nat)
  /-- `OnClose` of a connection, which reaches `OnCloseConnection`. -/
  | onClose (connection : Nat)

/-- A log statement ends the process. -/
inductive ServerFault where
  | logFatal
  deriving DecidableEq, Repr

namespace TcpServer

/-- A server that is started. -/
def new : TcpServer := ⟨0, 0, 0, fun _ => none, fun _ => none, fun _ => .empty⟩

/-- `GetNextLoop` of a pool that has started this many threads. -/
def getNextLoop (threadNum : Nat) (server : TcpServer) : TcpServer × IoLoop :=
  if threadNum = 0 then (server, .base)
  else ({ server with nextThreadId := (server.nextThreadId + 1) % threadNum },
    .thread server.nextThreadId)

def setConnection (server : TcpServer) (id : Nat) (connection : AcceptedConnection) : TcpServer :=
  { server with connections := Function.update server.connections id (some connection) }

/-- `RunInLoop`. -/
def runInLoop (server : TcpServer) (loop : IoLoop) (id : Nat) : TcpServer :=
  { server with loops := Function.update server.loops loop ((server.loops loop).push id) }

/-- `OnNewConnection`. -/
def onNewConnection (serverName : Bytes) (threadNum : Nat) (server : TcpServer)
    (peer : PeerAddress) : TcpServer :=
  let id := server.made
  let connectionName := peer.connectionName serverName server.connectionId
  let (server, ioLoop) :=
    { server with connectionId := server.connectionId + 1, made := id + 1 }.getNextLoop threadNum
  let server := server.setConnection id ⟨connectionName, ioLoop, .connecting⟩
  let server :=
    { server with connectionMap := Function.update server.connectionMap connectionName (some id) }
  server.runInLoop ioLoop id

/-- `TcpConnection::Established`, as far as its status goes. -/
def established (server : TcpServer) (id : Nat) : TcpServer :=
  match server.connections id with
  | none => server
  | some connection => server.setConnection id { connection with connectionStatus := .connected }

/-- `OnClose`, down to `OnCloseConnection`. The channel of a connection is not polled before it is
established, nor behind its close. -/
def onClose (server : TcpServer) (id : Nat) : TcpServer :=
  match server.connections id with
  | none => server
  | some connection =>
      if connection.connectionStatus = .connected ∨ connection.connectionStatus = .disconnecting
      then
        { server.setConnection id { connection with connectionStatus := .disconnected } with
          connectionMap := Function.update server.connectionMap connection.connectionName none }
      else server

/-- `Shutdown`, as far as its status goes. -/
def shutdown (server : TcpServer) (id : Nat) : TcpServer :=
  match server.connections id with
  | none => server
  | some connection =>
      if connection.connectionStatus = .connected then
        server.setConnection id { connection with connectionStatus := .disconnecting }
      else server

def step (serverName : Bytes) (threadNum : Nat) (server : TcpServer) :
    ServerEvent → Except ServerFault TcpServer
  | .onReadable none => .error .logFatal
  | .onReadable (some peer) => .ok (server.onNewConnection serverName threadNum peer)
  | .swapPendingFunc loop =>
      .ok { server with loops := Function.update server.loops loop (server.loops loop).swap }
  | .callPendingFunc loop =>
      match (server.loops loop).next with
      | none => .ok server
      | some (id, later) =>
          .ok ({ server with loops := Function.update server.loops loop later }.established id)
  | .shutdown id => .ok (server.shutdown id)
  | .onClose id => .ok (server.onClose id)

def machine (serverName : Bytes) (threadNum : Nat) :
    Machine (Except ServerFault TcpServer) ServerEvent :=
  .faulting (step serverName threadNum)

/-! ## What a run keeps -/

/-- The loop whose turn it is. -/
def turn (threadNum id : Nat) : IoLoop :=
  if threadNum = 0 then .base else .thread (id % threadNum)

/-- The connections that the loop is given, out of the first ones. -/
def turns (threadNum : Nat) (loop : IoLoop) (count : Nat) : List Nat :=
  (List.range count).filter fun id => turn threadNum id = loop

/-- The accounts of a server that has accepted these peers: it has one connection for each of them,
in the order of the accepts, with a name of the peer and the number of the connection; each belongs
to the loop whose turn it was, that loop is handed it, and it is connecting as long as the loop has
not come to it. -/
structure Numbered (serverName : Bytes) (threadNum : Nat) (peers : List PeerAddress)
    (server : TcpServer) : Prop where
  accepted : ∀ id, (server.connections id).isSome = true ↔ id < peers.length
  named : ∀ id connection, server.connections id = some connection →
    ∃ peer, peers[id]? = some peer ∧
      connection.connectionName = peer.connectionName serverName (BitVec.ofNat 32 id)
  ioLoop : ∀ id connection, server.connections id = some connection →
    connection.ioLoop = turn threadNum id
  handed : ∀ loop, (server.loops loop).all = turns threadNum loop peers.length
  waits : ∀ id connection, server.connections id = some connection →
    (connection.connectionStatus = .connecting ↔
      id ∈ (server.loops connection.ioLoop).toCome)

/-- The map has the connections that are not closed, by their names. -/
def MapsOpen (server : TcpServer) : Prop :=
  ∀ connectionName id, server.connectionMap connectionName = some id ↔
    ∃ connection, server.connections id = some connection ∧
      connection.connectionName = connectionName ∧ connection.connectionStatus ≠ .disconnected

/-- No two connections have the same name. -/
def NamesDiffer (server : TcpServer) : Prop :=
  ∀ id other connection otherConnection, server.connections id = some connection →
    server.connections other = some otherConnection →
      connection.connectionName = otherConnection.connectionName → id = other

/-- What every step keeps. -/
structure Kept (serverName : Bytes) (threadNum : Nat) (peers : List PeerAddress)
    (server : TcpServer) : Prop extends server.Numbered serverName threadNum peers where
  made : server.made = peers.length
  connectionId : server.connectionId = BitVec.ofNat 32 peers.length
  next : threadNum ≠ 0 → server.nextThreadId = peers.length % threadNum
  mapped : peers.length ≤ 10 ^ 9 → server.MapsOpen

variable {serverName : Bytes} {threadNum : Nat} {peers : List PeerAddress} {server : TcpServer}

theorem turns_succ (threadNum : Nat) (loop : IoLoop) (count : Nat) :
    turns threadNum loop (count + 1) =
      turns threadNum loop count ++ if turn threadNum count = loop then [count] else [] := by
  rw [turns, List.range_succ, List.filter_append, turns, List.filter_singleton]
  by_cases same : turn threadNum count = loop <;> simp [same]

theorem mem_turns {loop : IoLoop} {count id : Nat} :
    id ∈ turns threadNum loop count ↔ id < count ∧ turn threadNum id = loop := by
  rw [turns, List.mem_filter, List.mem_range, decide_eq_true_eq]

theorem kept_new : Kept serverName threadNum [] new where
  accepted id := iff_of_false nofun (Nat.not_lt_zero id)
  named _ _ absent := nomatch absent
  ioLoop _ _ absent := nomatch absent
  handed _ := rfl
  waits _ _ absent := nomatch absent
  made := rfl
  connectionId := rfl
  next _ := (Nat.zero_mod _).symm
  mapped _ _ _ := iff_of_false nofun nofun

/-- The first thousand million names differ. -/
theorem Numbered.namesDiffer (numbered : server.Numbered serverName threadNum peers)
    (few : peers.length ≤ 10 ^ 9) : server.NamesDiffer := by
  intro id other connection otherConnection there there' same
  obtain ⟨peer, -, named⟩ := numbered.named id connection there
  obtain ⟨peer', -, named'⟩ := numbered.named other otherConnection there'
  have less := (numbered.accepted id).mp (Option.isSome_of_eq_some there)
  have less' := (numbered.accepted other).mp (Option.isSome_of_eq_some there')
  rw [named, named'] at same
  exact PeerAddress.connectionName_injective (Nat.lt_of_lt_of_le less few)
    (Nat.lt_of_lt_of_le less' few) same

/-- An entry of an updated table is the new one or an old one. -/
theorem update_cases {table : Nat → Option AcceptedConnection} {changed id : Nat}
    {entry connection : AcceptedConnection}
    (there : Function.update table changed (some entry) id = some connection) :
    id = changed ∧ connection = entry ∨ id ≠ changed ∧ table id = some connection := by
  by_cases same : id = changed
  · rw [same, Function.update_self] at there
    exact .inl ⟨same, (Option.some.inj there).symm⟩
  · rw [Function.update_of_ne same] at there
    exact .inr ⟨same, there⟩

/-! ### A new connection -/

/-- What `OnNewConnection` leaves, when as many peers were accepted. -/
theorem onNewConnection_eq (kept : server.Kept serverName threadNum peers) (peer : PeerAddress) :
    server.onNewConnection serverName threadNum peer =
      { connectionId := BitVec.ofNat 32 (peers.length + 1)
        made := peers.length + 1
        nextThreadId := if threadNum = 0 then server.nextThreadId
          else (server.nextThreadId + 1) % threadNum
        connectionMap := Function.update server.connectionMap
          (peer.connectionName serverName (BitVec.ofNat 32 peers.length)) (some peers.length)
        connections := Function.update server.connections peers.length
          (some ⟨peer.connectionName serverName (BitVec.ofNat 32 peers.length),
            turn threadNum peers.length, .connecting⟩)
        loops := Function.update server.loops (turn threadNum peers.length)
          ((server.loops (turn threadNum peers.length)).push peers.length) } := by
  have number : BitVec.ofNat 32 peers.length + 1 = BitVec.ofNat 32 (peers.length + 1) :=
    (BitVec.ofNat_add _ _).symm
  rw [onNewConnection, getNextLoop, turn]
  by_cases none_ : threadNum = 0
  · simp only [if_pos none_, kept.made, kept.connectionId, number]
    rfl
  · simp only [if_neg none_, kept.made, kept.connectionId, number, kept.next none_]
    rfl

theorem Kept.absent (kept : server.Kept serverName threadNum peers) :
    server.connections peers.length = none := by
  rw [← Option.not_isSome_iff_eq_none]
  exact fun there => Nat.lt_irrefl _ ((kept.accepted _).mp there)

/-- The name of the next connection is that of no other. -/
theorem Kept.nextName_ne (kept : server.Kept serverName threadNum peers) (peer : PeerAddress)
    (few : peers.length + 1 ≤ 10 ^ 9) {id : Nat} {connection : AcceptedConnection}
    (there : server.connections id = some connection) :
    connection.connectionName ≠
      peer.connectionName serverName (BitVec.ofNat 32 peers.length) := by
  intro same
  obtain ⟨other, -, named⟩ := kept.named id connection there
  have less := (kept.accepted id).mp (Option.isSome_of_eq_some there)
  have equal := PeerAddress.connectionName_injective
    (Nat.lt_of_lt_of_le less (Nat.le_of_succ_le few)) few (named.symm.trans same)
  exact Nat.lt_irrefl _ (equal ▸ less)

/-- The map has the next connection, too. -/
theorem Kept.mapsOpen_accepts (kept : server.Kept serverName threadNum peers)
    (peer : PeerAddress) (few : peers.length + 1 ≤ 10 ^ 9) :
    (server.onNewConnection serverName threadNum peer).MapsOpen := by
  rw [onNewConnection_eq kept]
  intro connectionName id
  have earlier := kept.mapped (Nat.le_of_succ_le few)
  dsimp only
  by_cases own : connectionName =
      peer.connectionName serverName (BitVec.ofNat 32 peers.length)
  · subst own
    rw [Function.update_self, Option.some.injEq]
    constructor
    · rintro rfl
      exact ⟨_, Function.update_self _ _ _, rfl, by simp⟩
    · rintro ⟨connection, there, same, -⟩
      rcases update_cases there with ⟨rfl, -⟩ | ⟨-, old⟩
      · rfl
      · exact absurd same (kept.nextName_ne peer few old)
  · rw [Function.update_of_ne own, earlier connectionName id]
    refine exists_congr fun connection => and_congr_left fun named => ?_
    constructor
    · intro there
      have differs : id ≠ peers.length := by
        rintro rfl
        exact Option.some_ne_none _ (there.symm.trans kept.absent)
      rwa [Function.update_of_ne differs]
    · intro there
      rcases update_cases there with ⟨-, rfl⟩ | ⟨-, old⟩
      · exact absurd named.1.symm own
      · exact old

/-- **A new connection** is accounted for. -/
theorem Kept.accepts (kept : server.Kept serverName threadNum peers) (peer : PeerAddress) :
    (server.onNewConnection serverName threadNum peer).Kept serverName threadNum
      (peers ++ [peer]) := by
  rw [onNewConnection_eq kept]
  have count : (peers ++ [peer]).length = peers.length + 1 := by
    rw [List.length_append, List.length_singleton]
  constructor
  · constructor
    · intro id
      dsimp only
      rw [count]
      by_cases here : id = peers.length
      · rw [here, Function.update_self]
        exact iff_of_true rfl (Nat.lt_succ_self _)
      · rw [Function.update_of_ne here, kept.accepted id]
        omega
    · intro id connection there
      rcases update_cases there with ⟨rfl, rfl⟩ | ⟨-, old⟩
      · exact ⟨peer, List.getElem?_concat_length, rfl⟩
      · obtain ⟨known, found, named⟩ := kept.named id connection old
        have less := (kept.accepted id).mp (Option.isSome_of_eq_some old)
        exact ⟨known, (List.getElem?_append_left less).trans found, named⟩
    · intro id connection there
      rcases update_cases there with ⟨rfl, rfl⟩ | ⟨-, old⟩
      · rfl
      · exact kept.ioLoop id connection old
    · intro loop
      dsimp only
      rw [count, turns_succ, Function.update_apply]
      by_cases own : turn threadNum peers.length = loop
      · rw [if_pos own.symm, if_pos own, TaskQueue.push_all, ← own, kept.handed]
      · rw [if_neg (Ne.symm own), if_neg own, List.append_nil, kept.handed]
    · intro id connection there
      dsimp only
      rcases update_cases there with ⟨rfl, rfl⟩ | ⟨differs, old⟩
      · rw [Function.update_self, TaskQueue.push_toCome]
        exact iff_of_true rfl (List.mem_append_right _ List.mem_cons_self)
      · rw [kept.waits id connection old, Function.update_apply]
        split
        · next same =>
          rw [TaskQueue.push_toCome, List.mem_append, List.mem_singleton, same]
          exact ⟨.inl, fun inside => inside.resolve_right differs⟩
        · exact Iff.rfl
  · exact count.symm
  · rw [count]
  · intro some_
    dsimp only
    rw [if_neg some_, kept.next some_, Nat.mod_add_mod, count]
  · intro few
    rw [count] at few
    have opens := kept.mapsOpen_accepts peer few
    rwa [onNewConnection_eq kept] at opens

/-! ### Established, shut down, closed -/

/-- **One connection changes its status**, and waits for its loop as the status says. -/
theorem Numbered.restatus {after : TcpServer}
    (numbered : server.Numbered serverName threadNum peers)
    {id : Nat} {connection : AcceptedConnection} {status : ConnectionStatus}
    (there : server.connections id = some connection)
    (connections : after.connections = Function.update server.connections id
      (some { connection with connectionStatus := status }))
    (handed : ∀ loop, (after.loops loop).all = (server.loops loop).all)
    (here : status = .connecting ↔ id ∈ (after.loops connection.ioLoop).toCome)
    (others : ∀ other, other ≠ id → ∀ loop,
      other ∈ (after.loops loop).toCome ↔ other ∈ (server.loops loop).toCome) :
    after.Numbered serverName threadNum peers where
  accepted other := by
    rw [connections]
    by_cases same : other = id
    · rw [same, Function.update_self, ← numbered.accepted id, there]
      exact iff_of_true rfl rfl
    · rw [Function.update_of_ne same, numbered.accepted other]
  named other found present := by
    rw [connections] at present
    rcases update_cases present with ⟨rfl, rfl⟩ | ⟨-, old⟩
    · exact numbered.named other connection there
    · exact numbered.named other found old
  ioLoop other found present := by
    rw [connections] at present
    rcases update_cases present with ⟨rfl, rfl⟩ | ⟨-, old⟩
    · exact numbered.ioLoop other connection there
    · exact numbered.ioLoop other found old
  handed loop := by rw [handed, numbered.handed]
  waits other found present := by
    rw [connections] at present
    rcases update_cases present with ⟨rfl, rfl⟩ | ⟨differs, old⟩
    · exact here
    · rw [others other differs, numbered.waits other found old]

/-- A connection that has been established changes its status. -/
theorem Kept.setStatus (kept : server.Kept serverName threadNum peers) {id : Nat}
    {connection : AcceptedConnection} (there : server.connections id = some connection)
    (before : connection.connectionStatus ≠ .connecting) {status : ConnectionStatus}
    (after : status ≠ .connecting) :
    (server.setConnection id { connection with connectionStatus := status }).Numbered serverName
      threadNum peers := by
  refine kept.toNumbered.restatus there rfl (fun _ => rfl) ?_ fun _ _ _ => Iff.rfl
  exact iff_of_false after fun inside => before ((kept.waits id connection there).mpr inside)

/-- A status that does not end a connection leaves the map right. -/
theorem MapsOpen.setStatus (maps : server.MapsOpen) {id : Nat} {connection : AcceptedConnection}
    (there : server.connections id = some connection)
    (before : connection.connectionStatus ≠ .disconnected) {status : ConnectionStatus}
    (after : status ≠ .disconnected) :
    (server.setConnection id { connection with connectionStatus := status }).MapsOpen := by
  intro connectionName other
  refine (maps connectionName other).trans ?_
  constructor
  · rintro ⟨found, present, named, opened⟩
    by_cases here : other = id
    · subst here
      obtain rfl := Option.some.inj (there.symm.trans present)
      exact ⟨_, Function.update_self _ _ _, named, after⟩
    · exact ⟨found, (Function.update_of_ne here _ _).trans present, named, opened⟩
  · rintro ⟨found, present, named, opened⟩
    rcases update_cases present with ⟨rfl, rfl⟩ | ⟨-, old⟩
    · exact ⟨connection, there, named, before⟩
    · exact ⟨found, old, named, opened⟩

theorem Kept.shutdown (kept : server.Kept serverName threadNum peers) (id : Nat) :
    (server.shutdown id).Kept serverName threadNum peers := by
  rw [TcpServer.shutdown]
  cases there : server.connections id with
  | none => exact kept
  | some connection =>
      dsimp only
      split
      · next connected =>
        have before : connection.connectionStatus ≠ .connecting := by
          rw [connected]
          simp
        have opened : connection.connectionStatus ≠ .disconnected := by
          rw [connected]
          simp
        exact ⟨kept.setStatus there before (by simp), kept.made, kept.connectionId, kept.next,
          fun few => (kept.mapped few).setStatus there opened (by simp)⟩
      · exact kept

theorem Kept.closes (kept : server.Kept serverName threadNum peers) (id : Nat) :
    (server.onClose id).Kept serverName threadNum peers := by
  rw [TcpServer.onClose]
  cases there : server.connections id with
  | none => exact kept
  | some connection =>
      dsimp only
      split
      · next opened =>
        have before : connection.connectionStatus ≠ .connecting := by
          rcases opened with status | status
          · rw [status]
            simp
          · rw [status]
            simp
        have closed := @kept.setStatus _ _ _ _ id connection there before .disconnected (by simp)
        refine ⟨⟨closed.accepted, closed.named, closed.ioLoop, closed.handed, closed.waits⟩,
          kept.made, kept.connectionId, kept.next, fun few connectionName other => ?_⟩
        have earlier := kept.mapped few
        have differ := kept.namesDiffer few
        dsimp only
        by_cases own : connectionName = connection.connectionName
        · subst own
          rw [Function.update_self]
          refine iff_of_false nofun ?_
          rintro ⟨found, present, named, live⟩
          rcases update_cases present with ⟨-, rfl⟩ | ⟨other_, old⟩
          · exact live rfl
          · exact other_ (differ other id found connection old there named)
        · rw [Function.update_of_ne own, earlier connectionName other]
          refine exists_congr fun found => ?_
          constructor
          · rintro ⟨present, named, live⟩
            have differs : other ≠ id := by
              rintro rfl
              obtain rfl := Option.some.inj (there.symm.trans present)
              exact own named.symm
            exact ⟨(Function.update_of_ne differs _ _).trans present, named, live⟩
          · rintro ⟨present, named, live⟩
            rcases update_cases present with ⟨-, rfl⟩ | ⟨-, old⟩
            · exact absurd named.symm own
            · exact ⟨old, named, live⟩
      · exact kept

/-! ### Pending functions -/

/-- Taking what is pending hands nothing over and carries nothing out. -/
theorem Kept.swaps (kept : server.Kept serverName threadNum peers) (loop : IoLoop) :
    { server with
      loops := Function.update server.loops loop (server.loops loop).swap }.Kept serverName
      threadNum peers := by
  have same (other : IoLoop) :
      (Function.update server.loops loop (server.loops loop).swap other).toCome =
          (server.loops other).toCome ∧
        (Function.update server.loops loop (server.loops loop).swap other).all =
          (server.loops other).all := by
    rw [Function.update_apply]
    split
    · next here =>
      rw [here]
      exact ⟨TaskQueue.swap_toCome, TaskQueue.swap_all⟩
    · exact ⟨rfl, rfl⟩
  refine ⟨⟨kept.accepted, kept.named, kept.ioLoop, fun other => ?_, fun id connection there => ?_⟩,
    kept.made, kept.connectionId, kept.next, kept.mapped⟩
  · exact (same other).2.trans (kept.handed other)
  · rw [(same connection.ioLoop).1]
    exact kept.waits id connection there

/-- **The next pending function establishes a connection** that was connecting. -/
theorem Kept.calls (kept : server.Kept serverName threadNum peers) {loop : IoLoop} {id : Nat}
    {later : TaskQueue Nat} (next : (server.loops loop).next = some (id, later)) :
    ({ server with loops := Function.update server.loops loop later }.established id).Kept
      serverName threadNum peers := by
  obtain ⟨toCome, ran⟩ := TaskQueue.next_toCome next
  have all := kept.handed loop
  have mine : id ∈ (server.loops loop).all := by
    rw [TaskQueue.all, toCome]
    exact List.mem_append_right _ List.mem_cons_self
  rw [all, mem_turns] at mine
  have once : id ∉ later.toCome := by
    have nodup : (server.loops loop).all.Nodup := by
      rw [all]
      exact List.nodup_range.filter _
    rw [TaskQueue.all, toCome] at nodup
    exact (List.nodup_cons.mp (List.nodup_append.mp nodup).2.1).1
  obtain ⟨connection, there⟩ := Option.isSome_iff_exists.mp ((kept.accepted id).mpr mine.1)
  have own : connection.ioLoop = loop := (kept.ioLoop id connection there).trans mine.2
  have connecting : connection.connectionStatus = .connecting := by
    rw [kept.waits id connection there, own, toCome]
    exact List.mem_cons_self
  have opened : connection.connectionStatus ≠ .disconnected := by
    rw [connecting]
    simp
  rw [established]
  simp only [there]
  refine ⟨kept.toNumbered.restatus there rfl (fun other => ?_) ?_
    fun other differs other' => ?_, kept.made, kept.connectionId, kept.next, fun few => ?_⟩
  · rw [setConnection]
    dsimp only
    rw [Function.update_apply]
    split
    · next same => rw [same, TaskQueue.next_all next]
    · rfl
  · rw [setConnection, own]
    dsimp only
    rw [Function.update_self]
    exact iff_of_false (by simp) once
  · rw [setConnection]
    dsimp only
    rw [Function.update_apply]
    split
    · next same =>
      rw [same, toCome, List.mem_cons]
      exact ⟨.inr, fun inside => inside.resolve_left differs⟩
    · exact Iff.rfl
  · exact (kept.mapped few).setStatus there opened (by simp)

/-- The peer that an event brings. -/
def peerOf : ServerEvent → Option PeerAddress
  | .onReadable peer => peer
  | _ => none

/-- The peers that were accepted, in this order. -/
def peersOf (events : List ServerEvent) : List PeerAddress := events.filterMap peerOf

/-- **Every step keeps the accounts.** -/
theorem Kept.step (kept : server.Kept serverName threadNum peers) {event : ServerEvent}
    {after : TcpServer} (made : server.step serverName threadNum event = .ok after) :
    after.Kept serverName threadNum (peers ++ (peerOf event).toList) := by
  cases event with
  | onReadable peer =>
      cases peer with
      | none => cases made
      | some peer =>
          obtain rfl := Except.ok.inj made
          exact kept.accepts peer
  | swapPendingFunc loop =>
      obtain rfl := Except.ok.inj made
      exact (List.append_nil peers).symm ▸ kept.swaps loop
  | callPendingFunc loop =>
      have none_ : (peerOf (.callPendingFunc loop)).toList = [] := rfl
      rw [none_, List.append_nil]
      rw [TcpServer.step] at made
      cases next : (server.loops loop).next with
      | none =>
          rw [next] at made
          obtain rfl := Except.ok.inj made
          exact kept
      | some taken =>
          rw [next] at made
          obtain rfl := Except.ok.inj made
          exact kept.calls next
  | shutdown id =>
      obtain rfl := Except.ok.inj made
      exact (List.append_nil peers).symm ▸ kept.shutdown id
  | onClose id =>
      obtain rfl := Except.ok.inj made
      exact (List.append_nil peers).symm ▸ kept.closes id

/-- Only a failing accept ends the process. -/
theorem step_ok {event : ServerEvent} (accepts : event ≠ .onReadable none) :
    ∃ after, server.step serverName threadNum event = .ok after := by
  cases event with
  | onReadable peer =>
      cases peer with
      | none => exact absurd rfl accepts
      | some peer => exact ⟨_, rfl⟩
  | callPendingFunc loop =>
      rw [TcpServer.step]
      cases (server.loops loop).next with
      | none => exact ⟨_, rfl⟩
      | some taken => exact ⟨_, rfl⟩
  | _ => exact ⟨_, rfl⟩

/-- **A run keeps the accounts** until an accept fails. -/
theorem run_kept (serverName : Bytes) (threadNum : Nat) (events : List ServerEvent) :
    .onReadable none ∈ events ∧
        (machine serverName threadNum).run (.ok .new) events = .error .logFatal ∨
      .onReadable none ∉ events ∧ ∃ server,
        (machine serverName threadNum).run (.ok .new) events = .ok server ∧
        server.Kept serverName threadNum (peersOf events) := by
  induction events using List.reverseRecOn with
  | nil => exact .inr ⟨List.not_mem_nil, _, rfl, kept_new⟩
  | append_singleton events event ih =>
      rw [machine, Machine.faulting_run_concat]
      rcases ih with ⟨there, fails⟩ | ⟨absent, server, reached, kept⟩
      · rw [machine] at fails
        rw [fails]
        exact .inl ⟨List.mem_append_left _ there, rfl⟩
      · rw [machine] at reached
        rw [reached]
        by_cases last : event = .onReadable none
        · subst last
          exact .inl ⟨List.mem_append_right _ List.mem_cons_self, rfl⟩
        · obtain ⟨after, made⟩ := @step_ok serverName threadNum server event last
          have still := kept.step made
          refine .inr ⟨?_, after, made, ?_⟩
          · rw [List.mem_append, List.mem_singleton, not_or]
            exact ⟨absent, Ne.symm last⟩
          · rw [peersOf, List.filterMap_append, ← peersOf]
            cases brings : peerOf event with
            | none => simpa [brings] using still
            | some peer => simpa [brings] using still

end TcpServer

open TcpServer

/-- **The accounts of a server**, in every run, with any accepts, any order of the loops' pending
functions and any shutdowns and closes. The run ends with the process exactly if an accept fails.
Otherwise there is one connection for each accepted peer, in the order of the accepts, with its
name; it belongs to the loop whose turn it was, is handed to that loop behind those that were
accepted before it, and is connecting exactly as long as the loop has not come to it. And for the
first thousand million of them the names differ, and the map has exactly the connections that are
not closed. -/
theorem server_accounts (serverName : Bytes) (threadNum : Nat) (events : List ServerEvent) :
    ((TcpServer.machine serverName threadNum).run (.ok .new) events = .error .logFatal ↔
        .onReadable none ∈ events) ∧
      (.onReadable none ∉ events → ∃ server,
        (TcpServer.machine serverName threadNum).run (.ok .new) events = .ok server ∧
        server.Numbered serverName threadNum (peersOf events) ∧
        ((peersOf events).length ≤ 10 ^ 9 → server.NamesDiffer ∧ server.MapsOpen)) := by
  rcases run_kept serverName threadNum events with
    ⟨there, fails⟩ | ⟨absent, server, reached, kept⟩
  · exact ⟨iff_of_true fails there, fun absent => absurd there absent⟩
  · refine ⟨iff_of_false ?_ absent, fun _ => ⟨server, reached, kept.toNumbered, fun few =>
      ⟨kept.namesDiffer few, kept.mapped few⟩⟩⟩
    rw [reached]
    exact nofun

/-- Three connections to a server with two threads, of which the first two are established and the
first is closed. -/
def threeAccepts : List ServerEvent :=
  let peer (port : BitVec 16) : PeerAddress := ⟨ascii "::1", port, by decide⟩
  [.onReadable (some (peer 40000)), .onReadable (some (peer 40001)), .swapPendingFunc (.thread 0),
    .onReadable (some (peer 40000)), .callPendingFunc (.thread 0), .swapPendingFunc (.thread 1),
    .callPendingFunc (.thread 1), .onClose 0]

theorem server_accounts_threeAccepts :
    ∃ server, (TcpServer.machine [115] 2).run (.ok .new) threeAccepts = .ok server ∧
      server.Numbered [115] 2 (peersOf threeAccepts) ∧ server.MapsOpen ∧
      (server.loops (.thread 0)).toCome = [2] := by
  have absent : .onReadable none ∉ threeAccepts := by simp [threeAccepts]
  obtain ⟨server, reached, numbered, few⟩ := (server_accounts [115] 2 threeAccepts).2 absent
  have checked : ((TcpServer.machine [115] 2).run (.ok .new) threeAccepts).toOption.any
      (fun server => decide ((server.loops (.thread 0)).toCome = [2])) = true := by
    decide +kernel
  rw [reached] at checked
  exact ⟨server, reached, numbered, (few (by decide)).2, of_decide_eq_true checked⟩

end LiveBroadcast
