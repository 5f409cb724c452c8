import LiveBroadcast.Foundation.ContentLength
import LiveBroadcast.Foundation.Runs
import LiveBroadcast.Live.LogRecords
import LiveBroadcast.Live.RequestBytes
import LiveBroadcast.Network.TcpConnection

/-!
# The pages

`HttpServer` answers each read of a connection, whatever the read holds, as one request for one
of three pages: the script, the style sheet, and the index for every other target. If there is a
root directory the page is the file of its name there, unless it cannot be opened or has nothing
in it; otherwise it is the text that is compiled into the server.

A response says how long its page is. So what a connection is sent reads back as the pages, one
for each read, as long as the connection is connected (`requests_get_pages`). And no target names
a file: whatever is requested, only the three files below the root are opened. All this holds as
long as the target of each request has room in the record that is made of it, and so has the path
of a file that cannot be opened (`HasRoomFor`).
-/

set_option autoImplicit false

namespace LiveBroadcast

/-! ## Files -/

/-- What opening a path for reading finds: the size that `stat` gives, and what the calls of
`fread` give, one after the other, until they give nothing. -/
structure OpenedFile where
  fileSize : Nat
  reads : List Bytes
  nonempty : ∀ piece ∈ reads, piece ≠ []

/-- The files by their paths. -/
abbrev Files := Bytes → Option OpenedFile

namespace File

/-- The loop of `ReadFileAsString`. It ends when as many bytes were read as the file has, or when
a read gives nothing. -/
def readContent (fileSize : Nat) : List Bytes → Nat → Bytes → Bytes
  | [], _, content => content
  | piece :: reads, readSize, content =>
      if readSize < fileSize then
        readContent fileSize reads (readSize + piece.length) (content ++ piece)
      else content

/-- `ReadFileAsString`: whether the file was opened, and the content behind what was there. -/
def readFileAsString (files : Files) (filePath content : Bytes) : Bool × Bytes :=
  match files filePath with
  | none => (false, content)
  | some file => (true, readContent file.fileSize file.reads 0 content)

/-- **A file that stays as it is** is read to its end. -/
theorem readContent_whole {fileSize readSize : Nat} {reads : List Bytes}
    (nonempty : ∀ piece ∈ reads, piece ≠ [])
    (size : fileSize = readSize + reads.flatten.length) (content : Bytes) :
    readContent fileSize reads readSize content = content ++ reads.flatten := by
  induction reads generalizing readSize content with
  | nil => exact (List.append_nil _).symm
  | cons piece reads ih =>
      obtain ⟨here, later⟩ := List.forall_mem_cons.mp nonempty
      have positive := List.length_pos_iff.mpr here
      rw [List.flatten_cons, List.length_append] at size
      rw [readContent, if_pos (by omega), ih later (by omega), List.flatten_cons,
        List.append_assoc]

end File

/-! ## Requests -/

/-- The texts that are compiled in. -/
structure WebData where
  jsData : Bytes
  cssData : Bytes
  indexData : Bytes
  deriving DecidableEq, Repr

/-- The server: its root directory, empty if there is none. -/
structure HttpServer where
  httpRoot : Bytes
  webData : WebData
  deriving DecidableEq, Repr

namespace HttpServer

/-- The file that `GetResponseTextFromFile` reads. -/
def filePath (server : HttpServer) (url : Bytes) : Bytes :=
  if url = ascii "/flv.js" then server.httpRoot ++ ascii "/flv.js"
  else if url = ascii "/flv.css" then server.httpRoot ++ ascii "/flv.css"
  else server.httpRoot ++ ascii "/index.html"

/-- `GetResponseTextFromFile`. -/
def getResponseTextFromFile (server : HttpServer) (files : Files) (moment : LogMoment)
    (url : Bytes) : Except Fault Bytes := do
  let (read, responseText) := File.readFileAsString files (server.filePath url) []
  if !read then
    writeRecord (readFileErrorLog moment (server.filePath url))
  return responseText

/-- `GetResponseTestFromVar`. -/
def getResponseTestFromVar (server : HttpServer) (url : Bytes) : Bytes :=
  if url = ascii "/flv.js" then server.webData.jsData
  else if url = ascii "/flv.css" then server.webData.cssData
  else server.webData.indexData

/-- `GetResponseText`, and the paths it opens. -/
def getResponseText (server : HttpServer) (files : Files) (moment : LogMoment) (url : Bytes) :
    Except Fault (Bytes × List Bytes) := do
  let responseText ←
    if server.httpRoot ≠ [] then server.getResponseTextFromFile files moment url else pure []
  return (if responseText = [] then server.getResponseTestFromVar url else responseText,
    if server.httpRoot ≠ [] then [server.filePath url] else [])

/-- What a response begins with. -/
def responseStart : Bytes := ascii "HTTP/1.1 200 OK\r\n" ++ ascii "Content-Length: "

/-- `OnHttpMessage`: what it hands to `Send`, and the paths it opens. -/
def onHttpMessage (server : HttpServer) (files : Files) (moment : LogMoment)
    (connectionName requestData : Bytes) : Except Fault (Bytes × List Bytes) := do
  let url ← Format.getUrl requestData
  writeRecord (onHttpMessageLog moment connectionName url)
  let responseText ← server.getResponseText files moment url
  return (responseStart ++ toDecimal responseText.1.length ++ ascii "\r\n\r\n" ++ responseText.1,
    responseText.2)

end HttpServer

/-! ## Connections -/

/-- A connection of the server: what was handed to its `Send` while it was connected. -/
structure HttpClient where
  connectionStatus : ConnectionStatus
  sent : List Bytes
  deriving DecidableEq, Repr

/-- The connections by name, and the paths that were opened. A name is used once. -/
structure HttpConnections where
  clients : Bytes → HttpClient
  opened : List Bytes

/-- What happens on a connection: a read, with the files as they are at that time and what its
records find around them; a send that meets `EPIPE` or `ECONNRESET`; a close. -/
inductive HttpEvent where
  | httpMessage (connectionName requestData : Bytes) (files : Files) (moment : LogMoment)
  | sendFails (connectionName : Bytes)
  | close (connectionName : Bytes)

namespace HttpConnections

def empty : HttpConnections := ⟨fun _ => ⟨.connected, []⟩, []⟩

def setClient (state : HttpConnections) (connectionName : Bytes) (client : HttpClient) :
    HttpConnections :=
  { state with clients := Function.update state.clients connectionName client }

/-- A closed connection is not polled. -/
def step (server : HttpServer) (state : HttpConnections) : HttpEvent → Except Fault HttpConnections
  | .httpMessage connectionName requestData files moment =>
      let client := state.clients connectionName
      if client.connectionStatus = .disconnected then .ok state
      else do
        let (response, opened) ← server.onHttpMessage files moment connectionName requestData
        let sent :=
          if client.connectionStatus = .connected then client.sent ++ [response] else client.sent
        return { state.setClient connectionName { client with sent := sent } with
          opened := state.opened ++ opened }
  | .sendFails connectionName =>
      let client := state.clients connectionName
      if client.connectionStatus = .connected then
        .ok (state.setClient connectionName { client with connectionStatus := .disconnecting })
      else .ok state
  | .close connectionName =>
      .ok (state.setClient connectionName
        { state.clients connectionName with connectionStatus := .disconnected })

def machine (server : HttpServer) : Machine (Except Fault HttpConnections) HttpEvent :=
  .faulting (step server)

end HttpConnections

/-! ## What is requested -/

namespace HttpServer

/-- The three pages. -/
inductive Page where
  | script
  | styleSheet
  | index
  deriving DecidableEq, Repr

/-- The page that a target stands for. -/
def page (url : Bytes) : Page :=
  if url = ascii "/flv.js" then .script
  else if url = ascii "/flv.css" then .styleSheet
  else .index

namespace Page

/-- The name of its file below the root. -/
def fileName : Page → Bytes
  | .script => ascii "/flv.js"
  | .styleSheet => ascii "/flv.css"
  | .index => ascii "/index.html"

/-- Its text in the server. -/
def embedded (webData : WebData) : Page → Bytes
  | .script => webData.jsData
  | .styleSheet => webData.cssData
  | .index => webData.indexData

/-- Its text: that of the file, if there is a root, and the file there has one. -/
def text (server : HttpServer) (contents : Bytes → Option Bytes) (page : Page) : Bytes :=
  match contents (server.httpRoot ++ page.fileName) with
  | none => page.embedded server.webData
  | some content =>
      if server.httpRoot = [] ∨ content = [] then page.embedded server.webData else content

end Page

/-- What the files hold. -/
def contentsOf (files : Files) (path : Bytes) : Option Bytes :=
  (files path).map fun file => file.reads.flatten

/-- No file changes between `stat` and the last read. -/
def Steady (files : Files) : Prop :=
  ∀ path file, files path = some file → file.fileSize = file.reads.flatten.length

/-- The pages that are requested on a connection while it is connected. -/
def pages (server : HttpServer) (connectionName : Bytes) : List HttpEvent → List Bytes
  | [] => []
  | .httpMessage reader requestData files _ :: later =>
      if reader = connectionName then
        (page (requestTarget requestData)).text server (contentsOf files) ::
          server.pages connectionName later
      else server.pages connectionName later
  | .sendFails ended :: later | .close ended :: later =>
      if ended = connectionName then [] else server.pages connectionName later

variable {server : HttpServer} {files : Files} {moment : LogMoment}

theorem filePath_page (url : Bytes) :
    server.filePath url = server.httpRoot ++ (page url).fileName := by
  rw [filePath, page]
  split
  · rfl
  · split <;> rfl

theorem getResponseTestFromVar_page (url : Bytes) :
    server.getResponseTestFromVar url = (page url).embedded server.webData := by
  rw [getResponseTestFromVar, page]
  split
  · rfl
  · split <;> rfl

/-- There is room for what a request logs: its target, and the path of its page if there is a
root and the file cannot be opened. -/
structure HasRoomFor (server : HttpServer) (files : Files) (moment : LogMoment)
    (connectionName url : Bytes) : Prop where
  target : moment.HasRoom .info (54 + connectionName.length + url.length)
  filePath : server.httpRoot ≠ [] → files (server.filePath url) = none →
    moment.HasRoom .error (69 + (server.filePath url).length)

/-- The text of a file is what it holds, and empty if it cannot be opened. -/
theorem getResponseTextFromFile_eq (steady : Steady files) {url : Bytes}
    (room : files (server.filePath url) = none →
      moment.HasRoom .error (69 + (server.filePath url).length)) :
    server.getResponseTextFromFile files moment url =
      .ok ((contentsOf files (server.httpRoot ++ (page url).fileName)).getD []) := by
  rw [getResponseTextFromFile, File.readFileAsString, ← filePath_page, contentsOf]
  cases found : files (server.filePath url) with
  | none =>
      have written := (readFileErrorLog_iff moment (server.filePath url)).mpr (room found)
      simp only [Bool.not_false, if_true, written]
      rfl
  | some file =>
      have size : file.fileSize = 0 + file.reads.flatten.length := by
        rw [Nat.zero_add]
        exact steady _ _ found
      have read := File.readContent_whole file.nonempty size []
      rw [List.nil_append] at read
      exact congrArg Except.ok read

/-- **The text of a response** is that of the page, when the files stay as they are. -/
theorem getResponseText_page (steady : Steady files) {connectionName url : Bytes}
    (room : server.HasRoomFor files moment connectionName url) :
    server.getResponseText files moment url =
      .ok ((page url).text server (contentsOf files),
        if server.httpRoot ≠ [] then [server.filePath url] else []) := by
  rw [getResponseText, Page.text, getResponseTestFromVar_page]
  by_cases root : server.httpRoot = []
  · simp only [root, ne_eq, not_true_eq_false, if_false, if_true, true_or, bind, Except.bind, pure,
      Except.pure]
    split <;> rfl
  · rw [if_pos root, getResponseTextFromFile_eq steady (room.filePath root)]
    cases contentsOf files (server.httpRoot ++ (page url).fileName) with
    | none => rfl
    | some content =>
      simp only [root, ne_eq, not_false_eq_true, if_true, Option.getD_some, false_or, bind,
        Except.bind, pure, Except.pure]

/-- **What is handed to `Send`** is the page behind its length; and only the three files are
opened, and only if there is a root. -/
theorem onHttpMessage_eq (steady : Steady files) {connectionName requestData : Bytes}
    (short : requestData.length < npos)
    (room : server.HasRoomFor files moment connectionName (requestTarget requestData)) :
    ∃ opened, server.onHttpMessage files moment connectionName requestData =
        .ok (ContentLength.encode responseStart
          ((page (requestTarget requestData)).text server (contentsOf files)), opened) ∧
      ∀ path ∈ opened,
        server.httpRoot ≠ [] ∧ ∃ page : Page, path = server.httpRoot ++ page.fileName := by
  have written := (onHttpMessageLog_iff moment connectionName (requestTarget requestData)).mpr
    room.target
  refine ⟨if server.httpRoot ≠ [] then [server.filePath (requestTarget requestData)] else [], ?_,
    fun path inside => ?_⟩
  · rw [onHttpMessage, Format.getUrl_eq short]
    simp only [bind, Except.bind, written, getResponseText_page steady room]
    rfl
  · split at inside
    · next root =>
      rw [List.mem_singleton] at inside
      exact ⟨root, page _, inside.trans (filePath_page _)⟩
    · cases inside

end HttpServer

namespace HttpConnections

variable {server : HttpServer} {state next : HttpConnections}

/-- The read fits into memory, the files are as `HttpServer.Steady` says, and there is room for
what is logged. -/
def Plain (server : HttpServer) : HttpEvent → Prop
  | .httpMessage connectionName requestData files moment =>
      requestData.length < npos ∧ HttpServer.Steady files ∧
        server.HasRoomFor files moment connectionName (requestTarget requestData)
  | _ => True

/-- The paths below the root that are ever opened. -/
def OpensPages (server : HttpServer) (opened : List Bytes) : Prop :=
  ∀ path ∈ opened,
    server.httpRoot ≠ [] ∧ ∃ page : HttpServer.Page, path = server.httpRoot ++ page.fileName

@[simp] theorem setClient_clients (state : HttpConnections) (changed other : Bytes)
    (client : HttpClient) :
    (state.setClient changed client).clients other =
      if other = changed then client else state.clients other := by
  simp only [setClient, Function.update_apply]

/-- What a connection is still to be sent: nothing any more when it is not connected. -/
def toCome (server : HttpServer) (state : HttpConnections) (connectionName : Bytes)
    (events : List HttpEvent) : List Bytes :=
  if (state.clients connectionName).connectionStatus = .connected then
    (server.pages connectionName events).map (ContentLength.encode HttpServer.responseStart)
  else []

variable {connectionName : Bytes} {events : List HttpEvent}

/-- A connection that is not connected is sent nothing any more. -/
theorem toCome_silent (silent : (state.clients connectionName).connectionStatus ≠ .connected) :
    state.toCome server connectionName events = [] := if_neg silent

theorem toCome_same (same : next.clients connectionName = state.clients connectionName)
    {earlier : List HttpEvent}
    (pages : server.pages connectionName events = server.pages connectionName earlier) :
    (next.clients connectionName).sent ++ next.toCome server connectionName events =
      (state.clients connectionName).sent ++ state.toCome server connectionName earlier := by
  rw [toCome, toCome, same, pages]

/-- An event that ends a connection ends its pages. -/
theorem toCome_ended {client : HttpClient} {event : HttpEvent} {ended : Bytes}
    (sent : client.sent = (state.clients ended).sent)
    (status : client.connectionStatus ≠ .connected)
    (pages : ∀ connectionName, server.pages connectionName (event :: events) =
      if ended = connectionName then [] else server.pages connectionName events)
    (connectionName : Bytes) :
    ((state.setClient ended client).clients connectionName).sent ++
        (state.setClient ended client).toCome server connectionName events =
      (state.clients connectionName).sent ++
        state.toCome server connectionName (event :: events) := by
  by_cases same : ended = connectionName
  · subst same
    have nothing : state.toCome server ended (event :: events) = [] := by
      rw [toCome, pages, if_pos rfl, List.map_nil, ite_self]
    have changed : (state.setClient ended client).clients ended = client := by
      rw [setClient_clients, if_pos rfl]
    rw [nothing, toCome_silent (by rw [changed]; exact status), changed, sent]
  · refine toCome_same ?_ ?_
    · rw [setClient_clients, if_neg (Ne.symm same)]
    · rw [pages, if_neg same]

/-- **One event** hands to `Send` what the pages say, and opens only the three files. -/
theorem step_sends {event : HttpEvent} (plain : Plain server event) (events : List HttpEvent) :
    ∃ next, state.step server event = .ok next ∧
      (OpensPages server state.opened → OpensPages server next.opened) ∧
      ∀ connectionName,
        (next.clients connectionName).sent ++ next.toCome server connectionName events =
          (state.clients connectionName).sent ++
            state.toCome server connectionName (event :: events) := by
  cases event with
  | httpMessage reader requestData files moment =>
      obtain ⟨short, steady, room⟩ := plain
      have others {next : HttpConnections} {connectionName : Bytes}
          (differs : reader ≠ connectionName)
          (same : next.clients connectionName = state.clients connectionName) :
          (next.clients connectionName).sent ++ next.toCome server connectionName events =
            (state.clients connectionName).sent ++ state.toCome server connectionName
              (.httpMessage reader requestData files moment :: events) :=
        toCome_same same (by rw [HttpServer.pages, if_neg differs])
      by_cases gone : (state.clients reader).connectionStatus = .disconnected
      · refine ⟨state, if_pos gone, fun opens => opens, fun connectionName => ?_⟩
        by_cases same : reader = connectionName
        · subst same
          have silent : (state.clients reader).connectionStatus ≠ .connected := by
            rw [gone]
            simp
          rw [toCome_silent silent, toCome_silent silent]
        · exact others same rfl
      · obtain ⟨opened, made, below⟩ := HttpServer.onHttpMessage_eq steady short room
        generalize response : ContentLength.encode HttpServer.responseStart
          ((HttpServer.page (requestTarget requestData)).text server
            (HttpServer.contentsOf files)) = sent at made
        have stepped : state.step server (.httpMessage reader requestData files moment) =
            .ok { state.setClient reader { state.clients reader with
                sent :=
                  if (state.clients reader).connectionStatus = .connected then
                    (state.clients reader).sent ++ [sent]
                  else (state.clients reader).sent } with
              opened := state.opened ++ opened } := by
          rw [step]
          simp only [gone, if_false, made, bind, Except.bind, pure, Except.pure]
        refine ⟨_, stepped, fun opens path inside => ?_, fun connectionName => ?_⟩
        · exact (List.mem_append.mp inside).elim (opens path) (below path)
        · by_cases same : reader = connectionName
          · subst same
            by_cases connected : (state.clients reader).connectionStatus = .connected
            · simp only [toCome, setClient_clients, connected, if_true, HttpServer.pages,
                List.map_cons, response, List.append_assoc, List.singleton_append]
            · simp only [toCome, setClient_clients, connected, if_false, if_true]
          · refine others same ?_
            simp only [setClient_clients, if_neg (Ne.symm same)]
  | sendFails ended =>
      by_cases connected : (state.clients ended).connectionStatus = .connected
      · refine ⟨_, if_pos connected, fun opens => opens, toCome_ended rfl ?_ fun _ => ?_⟩
        · simp
        · rw [HttpServer.pages]
      · refine ⟨state, if_neg connected, fun opens => opens, fun connectionName => ?_⟩
        by_cases same : ended = connectionName
        · subst same
          rw [toCome_silent connected, toCome_silent connected]
        · exact toCome_same rfl (by rw [HttpServer.pages, if_neg same])
  | close ended =>
      refine ⟨_, rfl, fun opens => opens, toCome_ended rfl ?_ fun _ => ?_⟩
      · simp
      · rw [HttpServer.pages]

/-- **A run** sends each connection what the pages say. -/
theorem run_sends {events : List HttpEvent} (plain : ∀ event ∈ events, Plain server event)
    (opens : OpensPages server state.opened) :
    ∃ last, (machine server).run (.ok state) events = .ok last ∧
      OpensPages server last.opened ∧
      ∀ connectionName, (last.clients connectionName).sent =
        (state.clients connectionName).sent ++ state.toCome server connectionName events := by
  induction events generalizing state with
  | nil =>
      refine ⟨state, rfl, opens, fun connectionName => ?_⟩
      rw [toCome, HttpServer.pages, List.map_nil, ite_self, List.append_nil]
  | cons event events ih =>
      obtain ⟨here, later⟩ := List.forall_mem_cons.mp plain
      obtain ⟨next, stepped, keeps, sends⟩ := @step_sends server state event here events
      obtain ⟨last, reached, all, sent⟩ := ih later (keeps opens)
      refine ⟨last, ?_, all, fun connectionName => ?_⟩
      · rw [Machine.run_cons]
        exact (congrArg (fun outcome => (machine server).run outcome events) stepped).trans reached
      · rw [sent, sends]

end HttpConnections

open HttpConnections

/-- **Requests get pages.** However the reads, the failing sends and the closes of connections
follow each other, with any requests for which there is room in the log and any files that do not
change while they are read: the server never faults, it opens nothing but the files of the three
pages below its root, and what is handed to `Send` of a connection reads back as one page for each
read of it while it is connected. -/
theorem requests_get_pages (server : HttpServer) (events : List HttpEvent)
    (plain : ∀ event ∈ events, Plain server event) :
    ∃ state, (HttpConnections.machine server).run (.ok .empty) events = .ok state ∧
      OpensPages server state.opened ∧
      ∀ connectionName,
        Reader.readToEnd (ContentLength.decode HttpServer.responseStart)
            (state.clients connectionName).sent.flatten =
          some (server.pages connectionName events) := by
  obtain ⟨state, reached, opens, sent⟩ :=
    @run_sends server empty events plain (List.forall_mem_nil _)
  refine ⟨state, reached, opens, fun connectionName => ?_⟩
  have all : (state.clients connectionName).sent = (server.pages connectionName events).map
      (ContentLength.encode HttpServer.responseStart) := sent connectionName
  rw [all, ← List.flatMap_def]
  exact ContentLength.readToEnd_messages _ _

/-- A root directory with a script in two pieces and an empty style sheet. -/
def twoFiles : Files := fun path =>
  if path = ascii "/www/flv.js" then some ⟨3, [[1, 2], [3]], by decide⟩
  else if path = ascii "/www/flv.css" then some ⟨0, [], by decide⟩
  else none

def twoFilesServer : HttpServer := ⟨ascii "/www", ⟨[4], [5, 5], [6, 6, 6]⟩⟩

theorem twoFiles_steady : HttpServer.Steady twoFiles := by
  intro path file found
  rw [twoFiles] at found
  split at found
  · obtain rfl := Option.some.inj found
    rfl
  · split at found
    · obtain rfl := Option.some.inj found
      rfl
    · cases found

/-- The script, the style sheet, and a target that leads out of the root; then the connection
closes. -/
def threeRequests : List HttpEvent :=
  [.httpMessage [118] (ascii "GET /flv.js HTTP/1.1") twoFiles infoMoment,
    .httpMessage [118] (ascii "GET /flv.css HTTP/1.1") twoFiles infoMoment,
    .httpMessage [118] (ascii "GET /../../etc/passwd HTTP/1.1") twoFiles infoMoment,
    .close [118], .httpMessage [118] (ascii "GET /flv.js HTTP/1.1") twoFiles
      infoMoment]

theorem requests_get_pages_threeRequests :
    ∃ state, (HttpConnections.machine twoFilesServer).run (.ok .empty) threeRequests =
        .ok state ∧
      OpensPages twoFilesServer state.opened ∧
      Reader.readToEnd (ContentLength.decode HttpServer.responseStart)
        (state.clients [118]).sent.flatten = some [[1, 2, 3], [5, 5], [6, 6, 6]] := by
  have plain : ∀ event ∈ threeRequests, Plain twoFilesServer event := by
    intro event inside
    simp only [threeRequests, List.mem_cons, List.not_mem_nil, or_false] at inside
    rcases inside with rfl | rfl | rfl | rfl | rfl
    all_goals first
      | exact trivial
      | exact ⟨by decide, twoFiles_steady, .inr (by decide), fun _ _ => .inr (by decide)⟩
  have pages : twoFilesServer.pages [118] threeRequests = [[1, 2, 3], [5, 5], [6, 6, 6]] := by
    decide +kernel
  obtain ⟨state, reached, opens, reads⟩ := requests_get_pages twoFilesServer threeRequests plain
  exact ⟨state, reached, opens, (reads [118]).trans (congrArg some pages)⟩

end LiveBroadcast
