import LiveBroadcast.Live.PullServer

/-!
# One header for a viewer

A viewer is sent the header once, when its connection has just been established, and tags
behind it. That is what `SendHeaderOnConnection` is for; but `OnClientMessage` takes every
read for a new request, and whatever the read holds, a publisher that is found serves the
viewer again: another `HttpPullConnection`, whose last tag size is 0, and another header.

So a viewer is served once exactly as long as no read, behind the one that was granted, finds
a publisher with a header (`viewer_attached_once_iff`). A request line that is followed by
more bytes in a second read is enough to find one (`request_in_two_reads_served_twice`).
-/

set_option autoImplicit false

namespace LiveBroadcast

open ChunkedTransfer HttpPullConnection

/-! ## What a viewer is sent -/

/-- An HTTP response header, and one chunk with the FLV header and the header tags. -/
def IsStreamHeader (piece : Bytes) : Prop :=
  ∃ tags : RtmpPushConnection.HeaderTags, piece = responseHeader ++ encodeChunk tags.bytes

/-- One chunk with one tag. -/
def IsTagChunk (piece : Bytes) : Prop := ∃ item : FlvItem, piece = encodeChunk item.bytes

/-- Nothing, or one header and tags behind it. -/
def HeaderThenTags : List Bytes → Prop
  | [] => True
  | header :: chunks => IsStreamHeader header ∧ ∀ chunk ∈ chunks, IsTagChunk chunk

theorem HeaderThenTags.append {pieces more : List Bytes} (framed : HeaderThenTags pieces)
    (headed : more ≠ [] → pieces ≠ []) (tags : ∀ piece ∈ more, IsTagChunk piece) :
    HeaderThenTags (pieces ++ more) := by
  cases pieces with
  | nil =>
      have none_ : more = [] := by
        by_contra some_
        exact headed some_ rfl
      rw [none_]
      exact framed
  | cons header chunks =>
      refine ⟨framed.1, fun chunk inside => ?_⟩
      rcases List.mem_append.mp inside with early | late
      · exact framed.2 chunk early
      · exact tags chunk late

theorem responseHeader_eq_cons : responseHeader = 72 :: responseHeader.tail := by
  decide +kernel

/-- A tag chunk begins with a hexadecimal digit, a response header does not. -/
theorem not_isTagChunk_responseHeader (rest : Bytes) : ¬ IsTagChunk (responseHeader ++ rest) := by
  rintro ⟨item, same⟩
  have read := decodeChunk_encodeChunk item.bytes_ne_nil []
  rw [List.append_nil, ← same, responseHeader_eq_cons, List.cons_append] at read
  cases read

/-- A second response header is no tag. -/
theorem not_headerThenTags {pieces : List Bytes}
    (again : pieces.tail.any (responseHeader.isPrefixOf ·) = true) : ¬ HeaderThenTags pieces := by
  intro framed
  obtain ⟨piece, inside, starts⟩ := List.any_eq_true.mp again
  cases pieces with
  | nil => cases inside
  | cons header chunks =>
      obtain ⟨rest, rfl⟩ := List.isPrefixOf_iff_prefix.mp starts
      exact not_isTagChunk_responseHeader rest (framed.2 _ inside)

theorem isTagChunk_addFlvTag (client : HttpPullConnection) (tag : FlvTag) :
    IsTagChunk (client.addFlvTag tag).2 := ⟨_, addFlvTag_eq client tag⟩

/-- The viewer is served once: one `HttpPullConnection` at most is made on its connection, and
it is sent one header and tags behind it. -/
structure Viewer.ServedOnce (viewer : Viewer) : Prop where
  attachedOnce : viewer.attachments.length ≤ 1
  framed : HeaderThenTags viewer.sent

/-! ## Header buffers -/

namespace LiveServer

/-- A header buffer that is there is that of some tags. -/
def HeadersBuilt (server : LiveServer) : Prop :=
  ∀ id publisher, server.publishers id = some publisher →
    publisher.pushConnection.headerBuffer = [] ∨
      ∃ tags : RtmpPushConnection.HeaderTags, publisher.pushConnection.headerBuffer = tags.bytes

variable {build : Build} {server next : LiveServer}

/-- **`GetHeaderDataBuffer` gives a header.** -/
theorem HeadersBuilt.served (headers : server.HeadersBuilt) {id : Nat} {publisher : Publisher}
    (known : server.publishers id = some publisher) {unset : HeaderUnset}
    {served : RtmpPushConnection}
    (made : publisher.pushConnection.getHeaderDataBuffer build unset = .ok served) :
    ∃ tags : RtmpPushConnection.HeaderTags, served.headerBuffer = tags.bytes := by
  rcases RtmpPushConnection.getHeaderDataBuffer_cases made with ⟨rfl, kept⟩ | ⟨transformed, -, rfl⟩
  · exact (headers id publisher known).resolve_left kept
  · exact ⟨transformed.2, rfl⟩

/-- Every event keeps the header buffers built. -/
theorem HeadersBuilt.step (headers : server.HeadersBuilt) {event : LiveEvent}
    (made : server.step build event = .ok next) : next.HeadersBuilt := by
  intro id publisher there
  rcases step_publisher made there with ⟨-, name, unset, connect, release, -, rfl⟩ |
    ⟨earlier, known, changes⟩
  · exact .inl rfl
  · cases changes with
    | stays => exact headers id publisher known
    | reads read =>
        rw [(Publisher.onReadable_keepsHeader read).header]
        exact headers id earlier known
    | closes => exact headers id earlier known
    | attaches found added =>
        obtain ⟨served, header, rfl, -⟩ := RtmpPushConnection.addClientConnection_served added
        have built := headers.served known header
        exact .inr built
    | detaches => exact headers id earlier known

end LiveServer

/-! ## What an event does to a viewer -/

namespace PullServer

/-- What a run keeps about a viewer: it is where its requests were granted, the header buffers
are built, without a granted request nothing was sent, and a connected viewer with one was
sent something. -/
structure Serving (connectionName : Bytes) (state : PullServer) : Prop where
  attached : state.Attached connectionName
  headers : state.live.HeadersBuilt
  silent : (state.viewers connectionName).attachments = [] →
    (state.viewers connectionName).sent = []
  headed : (state.viewers connectionName).connectionStatus = .connected →
    (state.viewers connectionName).attachments ≠ [] → (state.viewers connectionName).sent ≠ []

/-- What an event can make of a viewer. -/
inductive Receives (build : Build) (state : PullServer) (connectionName : Bytes) :
    PullEvent → Viewer → Prop where
  /-- Nothing is sent; the connection may be shut down or closed. -/
  | nothing {event : PullEvent} {viewer : Viewer}
      (attachments : viewer.attachments = (state.viewers connectionName).attachments)
      (sent : viewer.sent = (state.viewers connectionName).sent)
      (status : viewer.connectionStatus = .connected →
        (state.viewers connectionName).connectionStatus = .connected) :
      Receives build state connectionName event viewer
  /-- A viewer with a granted request is sent tags. -/
  | tags {event : PullEvent} {pieces : List Bytes} (chunks : ∀ piece ∈ pieces, IsTagChunk piece)
      (attached : pieces ≠ [] → (state.viewers connectionName).attachments ≠ []) :
      Receives build state connectionName event ((state.viewers connectionName).send pieces)
  /-- A request is granted. -/
  | header {data : Bytes} {unset : HeaderUnset} {id : Nat} {publisher : Publisher}
      {served : RtmpPushConnection} {piece : Bytes}
      (opened : (state.viewers connectionName).connectionStatus ≠ .disconnected)
      (found : state.live.getPushConn data = .ok (some (id, publisher)))
      (made : publisher.pushConnection.getHeaderDataBuffer build unset = .ok served)
      (starts : IsStreamHeader piece) :
      Receives build state connectionName (.loop (.clientMessage connectionName data unset))
        (((state.viewers connectionName).record [.attached id]).send [piece])

variable {build : Build} {state next : PullServer} {connectionName : Bytes}

/-- An event of another viewer, or one that sends nothing. -/
theorem Receives.same {event : PullEvent} {viewer : Viewer}
    (unchanged : viewer = state.viewers connectionName) :
    Receives build state connectionName event viewer := by
  subst unchanged
  exact .nothing rfl rfl id

theorem Receives.shutdown {event : PullEvent} {changed : Bytes} :
    Receives build state connectionName event
      ((state.setViewer changed (state.viewers changed).shutdown).viewers connectionName) := by
  rw [setViewer_viewers]
  by_cases same : connectionName = changed
  · rw [if_pos same, ← same]
    exact .nothing (Viewer.shutdown_attachments _) (Viewer.shutdown_sent _)
      fun connected => absurd connected (Viewer.shutdown_not_connected _)
  · rw [if_neg same]
    exact .same rfl

/-- **What an event does to a viewer** is one of these. -/
theorem Serving.receives (serving : state.Serving connectionName) {event : PullEvent}
    (made : state.step build event = .ok next) :
    Receives build state connectionName event (next.viewers connectionName) := by
  cases step_becomes made with
  | ignores => exact .same rfl
  | refuses found => exact .shutdown
  | shutsDown changed => exact .shutdown
  | attaches joined data unset id publisher connection header opened found added =>
      rw [attach_viewers]
      by_cases same : connectionName = joined
      · subst same
        rw [if_pos rfl]
        obtain ⟨served, buffer, -, sent⟩ := RtmpPushConnection.addClientConnection_served added
        obtain ⟨tags, bytes⟩ :=
          serving.headers.served (LiveServer.getPushConn_publisher found) buffer
        refine .header opened found buffer ⟨tags, ?_⟩
        rw [sent, sendHeaderOnConnection_eq, bytes]
      · rw [if_neg same]
        exact .same rfl
  | closes closed opened reached =>
      by_cases same : connectionName = closed
      · subst same
        have after : (state.onClose connectionName).viewers connectionName =
            (state.viewers connectionName).onClose := Function.update_self _ _ _
        rw [after]
        exact .nothing (Viewer.onClose_attachments _) (Viewer.onClose_sent _)
          fun connected => by cases connected
      · exact .same (Function.update_of_ne same _ _)
  | passesOn kind used stepped =>
      obtain ⟨sends, sent, tagged⟩ := (LiveServer.sent_of_fromPublisher kind stepped).2
      simp only [deliver, sent, List.drop_left]
      refine .tags (fun piece inside => ?_) fun some_ => ?_
      · obtain ⟨send, there, rfl⟩ := List.mem_map.mp inside
        obtain ⟨client, tag, chunk⟩ := (tagged send (List.mem_filter.mp there).1).2
        rw [chunk]
        exact isTagChunk_addFlvTag client tag
      · obtain ⟨piece, inside⟩ := List.exists_mem_of_ne_nil _ some_
        obtain ⟨send, there, -⟩ := List.mem_map.mp inside
        obtain ⟨inSends, name⟩ := List.mem_filter.mp there
        obtain ⟨⟨id, client⟩, -⟩ := tagged send inSends
        rw [of_decide_eq_true name] at client
        exact List.ne_nil_of_mem (serving.attached.granted id client)

/-- **Every event keeps a viewer served** as it was. -/
theorem Serving.step (serving : state.Serving connectionName) {event : PullEvent}
    (made : state.step build event = .ok next) : next.Serving connectionName := by
  have headers : next.live.HeadersBuilt := by
    rcases live_step made with same | ⟨call, stepped⟩
    · rw [same]
      exact serving.headers
    · exact serving.headers.step stepped
  refine ⟨serving.attached.step made, headers, ?_, ?_⟩
  · have received := serving.receives made
    generalize next.viewers connectionName = viewer at received ⊢
    cases received with
    | nothing attachments sent status =>
        rw [attachments, sent]
        exact serving.silent
    | tags chunks attached =>
        intro none_
        rw [Viewer.send_attachments] at none_
        have quiet : _ = [] := not_not.mp (mt attached (not_not.mpr none_))
        rw [quiet, Viewer.send_sent, ite_self, List.append_nil]
        exact serving.silent none_
    | header opened found buffer starts =>
        intro none_
        rw [Viewer.attach_attachments] at none_
        exact absurd none_ (List.append_ne_nil_of_right_ne_nil _ (List.cons_ne_nil _ _))
  · have received := serving.receives made
    generalize next.viewers connectionName = viewer at received ⊢
    cases received with
    | nothing attachments sent status =>
        rw [attachments, sent]
        exact fun connected => serving.headed (status connected)
    | tags chunks attached =>
        intro connected some_
        rw [Viewer.send_connectionStatus] at connected
        rw [Viewer.send_attachments] at some_
        rw [Viewer.send_sent]
        exact List.append_ne_nil_of_left_ne_nil (serving.headed connected some_) _
    | header opened found buffer starts =>
        intro connected _
        rw [Viewer.send_connectionStatus, Viewer.record_connectionStatus] at connected
        rw [Viewer.attach_sent, if_pos connected]
        exact List.append_ne_nil_of_right_ne_nil _ (List.cons_ne_nil _ _)

theorem serving_empty : Serving connectionName empty where
  attached := attached_empty
  headers id publisher known := by cases known
  silent _ := rfl
  headed _ some_ := absurd rfl some_

/-! ## Viewers that are served once -/

/-- A read of an open viewer of which a request was granted before finds no publisher that has
a header to send. -/
def FindsNoneAgain (build : Build) (connectionName : Bytes) (state : PullServer) :
    PullEvent → Prop
  | .loop (.clientMessage reader data unset) =>
      reader = connectionName →
        (state.viewers connectionName).connectionStatus ≠ .disconnected →
          (state.viewers connectionName).attachments ≠ [] →
            ∀ id publisher, state.live.getPushConn data = .ok (some (id, publisher)) →
              ∀ served, publisher.pushConnection.getHeaderDataBuffer build unset ≠ .ok served
  | _ => True

/-- **The events that keep a viewer served once** are those that do not grant it another
request. -/
theorem Serving.servedOnce_iff (serving : state.Serving connectionName)
    (once : (state.viewers connectionName).ServedOnce) (event : PullEvent) :
    (∀ next, state.step build event = .ok next → (next.viewers connectionName).ServedOnce) ↔
      state.FindsNoneAgain build connectionName event := by
  constructor
  · intro keeps
    cases event with
    | sendFails other => trivial
    | loop event =>
        cases event with
        | clientMessage reader data unset =>
            rintro rfl opened some_ id publisher found served header
            obtain ⟨connection, sent, made⟩ :=
              @step_attaches build state reader data unset id publisher served opened found header
            have twice := (keeps _ made).attachedOnce
            rw [attach_viewers, if_pos rfl, Viewer.attach_attachments, List.length_append,
              List.length_singleton] at twice
            have first := List.length_pos_iff.mpr some_
            omega
        | _ => trivial
  · intro finds next made
    have received := serving.receives made
    generalize next.viewers connectionName = viewer at received ⊢
    cases received with
    | nothing attachments sent status =>
        exact ⟨attachments ▸ once.attachedOnce, sent ▸ once.framed⟩
    | tags chunks attached =>
        refine ⟨by rw [Viewer.send_attachments]; exact once.attachedOnce, ?_⟩
        rw [Viewer.send_sent]
        split
        · next connected =>
            exact once.framed.append
              (fun some_ => serving.headed connected (attached some_)) chunks
        · rw [List.append_nil]
          exact once.framed
    | header opened found buffer starts =>
        have first : (state.viewers connectionName).attachments = [] := by
          by_contra some_
          exact finds rfl opened some_ _ _ found _ buffer
        refine ⟨?_, ?_⟩
        · rw [Viewer.attach_attachments, first]
          exact Nat.le_refl 1
        · rw [Viewer.attach_sent, serving.silent first, List.nil_append]
          split
          · exact ⟨starts, List.forall_mem_nil _⟩
          · trivial

/-- A read that is not granted leaves the publishers and sends nothing. -/
theorem FindsNoneAgain.leaves {data : Bytes} {unset : HeaderUnset}
    (finds : state.FindsNoneAgain build connectionName
      (.loop (.clientMessage connectionName data unset)))
    (some_ : (state.viewers connectionName).attachments ≠ [])
    (made : state.step build (.loop (.clientMessage connectionName data unset)) = .ok next) :
    next.live = state.live ∧
      (next.viewers connectionName).sent = (state.viewers connectionName).sent := by
  cases step_becomes made with
  | ignores => exact ⟨rfl, rfl⟩
  | refuses found =>
      rw [setViewer_viewers, if_pos rfl]
      exact ⟨rfl, Viewer.shutdown_sent _⟩
  | attaches _ _ _ id publisher connection header opened found added =>
      obtain ⟨served, buffer, -⟩ := RtmpPushConnection.addClientConnection_served added
      exact absurd buffer (finds rfl opened some_ id publisher found served)
  | passesOn kind used stepped => exact kind.elim

end PullServer

open PullServer

/-- **A viewer is attached once exactly as long as no later read is granted.** In every run,
with any reads of any viewers, publishers' traffic and closes: a viewer is made one
`HttpPullConnection` at most and sent one header and tags behind it, and no read behind the
granted one changes a publisher or sends anything, if and only if none of its reads behind
the granted one finds a publisher that has a header to send. -/
theorem viewer_attached_once_iff (build : Build) (connectionName : Bytes)
    (events : List PullEvent) :
    ((∀ before, before <+: events → ∀ state,
          (PullServer.machine build).run (.ok .empty) before = .ok state →
            (state.viewers connectionName).ServedOnce) ∧
        ∀ before data unset,
          before ++ [.loop (.clientMessage connectionName data unset)] <+: events →
            ∀ state next, (PullServer.machine build).run (.ok .empty) before = .ok state →
              state.step build (.loop (.clientMessage connectionName data unset)) = .ok next →
                (state.viewers connectionName).attachments ≠ [] →
                  next.live = state.live ∧
                    (next.viewers connectionName).sent = (state.viewers connectionName).sent) ↔
      ∀ before event, before ++ [event] <+: events → ∀ state,
        (PullServer.machine build).run (.ok .empty) before = .ok state →
          state.FindsNoneAgain build connectionName event := by
  have once : (PullServer.empty.viewers connectionName).ServedOnce := ⟨Nat.zero_le 1, trivial⟩
  have steps (state : PullServer) (event : PullEvent) (serving : state.Serving connectionName)
      (holds : (state.viewers connectionName).ServedOnce) :
      (∀ next, state.step build event = .ok next → (next.viewers connectionName).ServedOnce) ↔
        state.FindsNoneAgain build connectionName event := serving.servedOnce_iff holds event
  rw [PullServer.machine, Machine.faulting_always_iff
    (fun _ _ _ serving made => Serving.step serving made) steps serving_empty once events]
  refine ⟨And.left, fun finds => ⟨finds, ?_⟩⟩
  intro before data unset le state next reached made some_
  exact (finds before _ le state reached).leaves some_ made

/-- A publisher broadcasts, and a viewer's request arrives in two reads, with a frame of the
publisher between them: `GET /p `, and `HTTP/1.1` with a header field `Via: /p `. -/
def requestInTwoReads : List PullEvent :=
  (acknowledgedStream ++
    [LiveEvent.readable 0 (encodeMessages 4096 4 oneFrame) ⟨none, fun _ => 0, 0⟩,
      .clientMessage [118] [72, 84, 84, 80, 47, 49, 46, 49, 13, 10, 86, 105, 97, 58, 32, 47, 112,
        32, 13, 10, 13, 10] ⟨0, 0, 0⟩]).map .loop

/-- **A request in two reads is served twice**: the second read is taken for a request of its
own, and its header stands behind a tag. -/
theorem request_in_two_reads_served_twice :
    ∃ state, (PullServer.machine .standard).run (.ok .empty) requestInTwoReads = .ok state ∧
      (state.viewers [118]).attachments = [0, 0] ∧
      ¬ HeaderThenTags (state.viewers [118]).sent ∧ ¬ (state.viewers [118]).ServedOnce := by
  have twice : ((PullServer.machine .standard).run (.ok .empty)
      requestInTwoReads).toOption.any (fun state =>
        decide ((state.viewers [118]).attachments = [0, 0]) &&
          (state.viewers [118]).sent.tail.any (responseHeader.isPrefixOf ·)) = true := by
    decide +kernel
  obtain ⟨state, reached, checked⟩ := Machine.exists_of_any twice
  rw [Bool.and_eq_true, decide_eq_true_eq] at checked
  have broken := not_headerThenTags checked.2
  exact ⟨state, reached, checked.1, broken, fun once => broken once.framed⟩

end LiveBroadcast
