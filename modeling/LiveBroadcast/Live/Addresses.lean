import LiveBroadcast.Live.RtmpPushServer

/-!
# The addresses of a room

A publisher of the room `p` pushes to `rtmp://authority/p`, and a viewer of it requests `/p`.
Either may put a slash behind the path. `OnShakeHandSuccess` registers the publisher under the
path that `GetPathFromUrl` takes from its URL, and `OnClientMessage` looks up what `GetUrl`
takes from the request line, without its first character.

`GetPathFromUrl` drops the slash behind the path and `GetUrl` keeps it. So the two keys are the
path of the room exactly when the request has no slash behind the path
(`addresses_agree_iff`).
-/

set_option autoImplicit false

namespace LiveBroadcast

/-- The path of a room: not empty, without blanks, and without a slash at either end. -/
structure RoomPath where
  bytes : Bytes
  nonempty : bytes ≠ []
  noBlank : 32 ∉ bytes
  noSlashBefore : bytes.head? ≠ some 47
  noSlashBehind : bytes.getLast? ≠ some 47

/-- The path of a room as it is written, with a slash behind it or without. -/
def RoomPath.spelled (room : RoomPath) (slash : Bool) : Bytes :=
  if slash then room.bytes ++ [47] else room.bytes

/-- `rtmp://authority/path`. -/
def publisherUrl (authority : Bytes) (room : RoomPath) (slash : Bool) : Bytes :=
  [114, 116, 109, 112, 58, 47, 47] ++ authority ++ 47 :: room.spelled slash

/-- `GET /path HTTP/1.1`. -/
def requestLine (room : RoomPath) (slash : Bool) : Bytes :=
  [71, 69, 84, 32] ++ (47 :: room.spelled slash) ++ [32, 72, 84, 84, 80, 47, 49, 46, 49]

/-- What `OnClientMessage` looks up for the bytes of a request. -/
def requestKey (data : Bytes) : Except Fault Bytes := do
  let url ← Format.getUrl data
  substr url 1 npos

/-! ## The two keys in the servers -/

/-- A request is looked up under its key. -/
theorem LiveServer.getPushConn_eq (server : LiveServer) (data : Bytes) :
    server.getPushConn data = (requestKey data).map fun key =>
      (server.registry.getPushConnByUrl key).bind fun id =>
        (server.publishers id).map (id, ·) := by
  rw [getPushConn, requestKey]
  cases Format.getUrl data with
  | error fault => rfl
  | ok url =>
      simp only [bind, Except.bind]
      cases substr url 1 npos <;> rfl

/-- A publisher is registered under its RTMP path. -/
theorem Publisher.onConnectionShakeHand_getRtmpPath {build : Build}
    {environment : ReadEnvironment} {publisher : Publisher} {buffer : Bytes} {outcome : ReadOutcome}
    (made : publisher.onConnectionShakeHand build environment buffer = .ok outcome) {key : Bytes}
    (registered : outcome.registered = some key) :
    outcome.publisher.pushConnection.getRtmpPath = .ok key := by
  rw [onConnectionShakeHand] at made
  cases result : (publisher.shakeHand build buffer).2 with
  | shakeSuccess =>
      simp only [result] at made
      cases path : (publisher.shakeHand build buffer).1.pushConnection.getRtmpPath with
      | error fault =>
          rw [path] at made
          cases made
      | ok found =>
          rw [path] at made
          obtain rfl := Except.ok.inj made
          obtain rfl := Option.some.inj registered
          exact path
  | shakeAuthenticate =>
      obtain ⟨none, -⟩ := onConnectionShakeHand_continues
        (by rw [onConnectionShakeHand]; exact made) (by simp [result])
      rw [none] at registered
      cases registered
  | shakeFailed =>
      simp only [result] at made
      obtain rfl := Except.ok.inj made
      cases registered
  | shakeDataNotEnough =>
      simp only [result] at made
      obtain rfl := Except.ok.inj made
      cases registered

theorem Publisher.registered_getRtmpPath {build : Build} {environment : ReadEnvironment}
    {publisher : Publisher} {data : Bytes} {outcome : ReadOutcome}
    (read : publisher.onReadable build environment data = .ok outcome) {key : Bytes}
    (registered : outcome.registered = some key) :
    outcome.publisher.pushConnection.getRtmpPath = .ok key := by
  rcases onReadable_cases read with ⟨-, rfl⟩ | ⟨-, -, shaking⟩ | ⟨-, -, rfl⟩
  · cases registered
  · exact onConnectionShakeHand_getRtmpPath shaking registered
  · cases registered

/-! ## What the parsers find -/

/-- A byte is found behind a part of the text that does not have it. -/
theorem find_byte {front middle rest : Bytes} {byte : UInt8} (absent : byte ∉ middle) :
    find (front ++ middle ++ byte :: rest) [byte] front.length =
      front.length + middle.length := by
  apply find_eq (Nat.le_add_right _ _)
  · simp only [List.length_append]
    omega
  · rw [List.drop_left' List.length_append]
    exact ⟨rest, rfl⟩
  · intro j behind before stands
    obtain ⟨i, rfl⟩ := Nat.exists_eq_add_of_le behind
    rw [List.append_assoc, List.drop_length_add_append] at stands
    have inside : i < middle.length := by omega
    rw [List.drop_append_of_le_length (by omega), List.drop_eq_getElem_cons inside,
      List.cons_append, List.cons_prefix_cons] at stands
    exact absent (stands.1 ▸ List.getElem_mem inside)

variable {room : RoomPath}

theorem RoomPath.blank_not_mem_spelled (room : RoomPath) (slash : Bool) :
    32 ∉ room.spelled slash := by
  have absent := room.noBlank
  cases slash with
  | true => simpa [spelled] using absent
  | false => simpa [spelled] using absent

theorem RoomPath.withoutSlash_spelled (room : RoomPath) (slash : Bool) :
    Format.withoutSlash (room.spelled slash) = room.bytes := by
  cases slash with
  | true => simp [spelled, Format.withoutSlash]
  | false => simp [spelled, Format.withoutSlash, room.noSlashBehind]

/-- **The path of a publisher's URL** is that of the room, with a slash behind it or without. -/
theorem getPathFromUrl_publisherUrl {authority : Bytes} (plain : 47 ∉ authority) (slash : Bool)
    (short : (publisherUrl authority room slash).length < npos) :
    Format.getPathFromUrl (publisherUrl authority room slash) = .ok room.bytes := by
  have scheme : find (publisherUrl authority room slash) [47, 47] 0 = 5 := by
    apply find_eq (Nat.zero_le _)
    · simp only [publisherUrl, List.length_append, List.length_cons]
      omega
    · exact ⟨authority ++ 47 :: room.spelled slash, rfl⟩
    · intro j _ before stands
      have places : j = 0 ∨ j = 1 ∨ j = 2 ∨ j = 3 ∨ j = 4 := by omega
      rcases places with rfl | rfl | rfl | rfl | rfl
      all_goals
        simp only [publisherUrl, List.cons_append, List.nil_append, List.drop_succ_cons,
          List.drop_zero, List.cons_prefix_cons] at stands
        exact absurd stands.1 (by decide)
  have slashAt : find (publisherUrl authority room slash) [47] (addSize 5 2) =
      7 + authority.length := find_byte plain
  rw [← room.withoutSlash_spelled slash]
  apply Format.getPathFromUrl_eq
  · rw [scheme, slashAt]
  · rw [publisherUrl]
    exact List.drop_left' (by simp only [List.length_append, List.length_cons, List.length_nil])
  · exact short

/-- **The key of a request** is the path as the request spells it. -/
theorem requestKey_requestLine (slash : Bool) (rest : Bytes)
    (short : room.bytes.length + 6 < npos) :
    requestKey (requestLine room slash ++ rest) = .ok (room.spelled slash) := by
  have length : (room.spelled slash).length ≤ room.bytes.length + 1 := by
    cases slash <;> simp [RoomPath.spelled]
  have method : find (requestLine room slash ++ rest) [32] 0 = 3 := by
    have found := @find_byte [] [71, 69, 84]
      ((47 :: room.spelled slash) ++ [32, 72, 84, 84, 80, 47, 49, 46, 49] ++ rest) 32 (by decide)
    simpa [requestLine] using found
  have blank : find (requestLine room slash ++ rest) [32] 4 =
      4 + ((room.spelled slash).length + 1) := by
    have absent : 32 ∉ 47 :: room.spelled slash := by
      rw [List.mem_cons, not_or]
      exact ⟨by decide, room.blank_not_mem_spelled slash⟩
    have found := @find_byte [71, 69, 84, 32] (47 :: room.spelled slash)
      ([72, 84, 84, 80, 47, 49, 46, 49] ++ rest) 32 absent
    simpa [requestLine] using found
  have target : Format.getUrl (requestLine room slash ++ rest) =
      .ok (47 :: room.spelled slash) := by
    have four : addSize 3 1 = 4 := rfl
    have count : subSize (4 + ((room.spelled slash).length + 1)) 4 =
        (room.spelled slash).length + 1 := by
      unfold npos at short
      rw [subSize]
      omega
    simp only [Format.getUrl, method, four, blank, count]
    rw [substr, if_neg (by simp [requestLine])]
    simp [requestLine]
  have whole : (room.spelled slash).take npos = room.spelled slash :=
    List.take_of_length_le (by omega)
  simp only [requestKey, target, bind, Except.bind]
  rw [substr, if_neg (by simp), List.drop_succ_cons, List.drop_zero, whole]

/-- **When the addresses of a room agree.** A publisher whose connect command holds the URL of
the room is registered under the path of the room, and a viewer's request for the room is
looked up under it, if and only if the request has no slash behind the path. -/
theorem addresses_agree_iff {connection : RtmpPushConnection} {authority : Bytes}
    (plain : 47 ∉ authority) (room : RoomPath) (publisherSlash requestSlash : Bool)
    (url : connection.rtmpManager.getUrlFromConnectPack =
      .ok (publisherUrl authority room publisherSlash))
    (short : (publisherUrl authority room publisherSlash).length < npos) (rest : Bytes) :
    (connection.getRtmpPath = .ok room.bytes ∧
        requestKey (requestLine room requestSlash ++ rest) = .ok room.bytes) ↔
      requestSlash = false := by
  have registered : connection.getRtmpPath = .ok room.bytes := by
    simp only [RtmpPushConnection.getRtmpPath, url, bind, Except.bind]
    exact getPathFromUrl_publisherUrl plain publisherSlash short
  have fits : room.bytes.length + 6 < npos := by
    have length : room.bytes.length ≤ (room.spelled publisherSlash).length := by
      cases publisherSlash <;> simp [RoomPath.spelled]
    simp only [publisherUrl, List.length_append, List.length_cons] at short
    omega
  rw [registered, requestKey_requestLine requestSlash rest fits]
  cases requestSlash with
  | true => simp [RoomPath.spelled]
  | false => simp [RoomPath.spelled]

/-- The room `p`. -/
def roomP : RoomPath := ⟨[112], by decide, by decide, by decide, by decide⟩

/-- A publisher whose connect command is `rtmp://h/p/`. -/
def publisherOfP : RtmpPushConnection :=
  .new [] { RtmpManager.atStart .standard with
    connectPack := RtmpPack.zero.appendData [114, 116, 109, 112, 58, 47, 47, 104, 47, 112, 47] }

theorem addresses_agree_iff_roomP :
    publisherOfP.getRtmpPath = .ok [112] ∧
      requestKey (requestLine roomP false ++ [13, 10, 13, 10]) = .ok [112] :=
  (addresses_agree_iff (by decide : (47 : UInt8) ∉ ([104] : Bytes)) roomP true false rfl (by decide)
    [13, 10, 13, 10]).mpr rfl

/-- **A request with a slash behind the path** misses the publisher of the room. -/
theorem slash_behind_request_kept :
    publisherOfP.rtmpManager.getUrlFromConnectPack = .ok (publisherUrl [104] roomP true) ∧
      publisherOfP.getRtmpPath = .ok roomP.bytes ∧
      requestKey (requestLine roomP true ++ [13, 10, 13, 10]) = .ok [112, 47] ∧
      requestKey (requestLine roomP true ++ [13, 10, 13, 10]) ≠ .ok roomP.bytes := by
  decide

/-- **A viewer finds the publisher of its room.** The request comes right behind the read that
completes the publisher's handshake. -/
theorem LiveServer.getPushConn_registered {build : Build} {server next : LiveServer} {id : Nat}
    {data : Bytes} {environment : ReadEnvironment} {publisher : Publisher} {outcome : ReadOutcome}
    (known : server.publishers id = some publisher)
    (read : publisher.onReadable build environment data = .ok outcome)
    (made : server.onReadable build id data environment = .ok next) {key : Bytes}
    (registered : outcome.registered = some key) {authority : Bytes} (plain : 47 ∉ authority)
    (room : RoomPath) (slash : Bool)
    (url : outcome.publisher.pushConnection.rtmpManager.getUrlFromConnectPack =
      .ok (publisherUrl authority room slash))
    (short : (publisherUrl authority room slash).length < npos) (rest : Bytes) :
    next.getPushConn (requestLine room false ++ rest) = .ok (some (id, outcome.publisher)) := by
  obtain ⟨path, request⟩ := (addresses_agree_iff plain room slash false url short rest).mpr rfl
  have same : key = room.bytes := by
    rw [Publisher.registered_getRtmpPath read registered] at path
    exact Except.ok.inj path
  rcases onReadable_publishers made with ⟨-, absent⟩ | ⟨found, left, there, again, updated, map⟩
  · rw [known] at absent
    cases absent
  · rw [known] at there
    obtain rfl := Option.some.inj there
    rw [read] at again
    obtain rfl := Except.ok.inj again
    rw [registered] at map
    rw [getPushConn_eq, request, map, updated, same]
    simp [Except.map, StreamRegistry.getPushConnByUrl_onShakeHandSuccess]

end LiveBroadcast
