import Router1.Remote.Program
import Router1.Dart.Json
import Router1.Keenetic.Command

/-!
# Talking to the router

One HTTP attempt is one `Exchange`. The net decides what every attempt ends with: a fault of the
connection, or a response; and, apart from that, which of the requested changes the router has
carried out, so that a reply can be lost after the change was made. An interface request that is
answered with success has been carried out. A batch of command lines is answered as a whole and each
of its lines is carried out or not.

The session is what the service keeps in memory, the two maps from router addresses to interface
names, together with the exchanges and the lookups made so far. The router itself is not part of it:
what a call does to a router is read off the exchanges it made.
-/

namespace Keenetic

open Dart Remote

/-! ### Requests and what they end with -/

inductive Request where
  | showInterfaces
  | showInterface (name : String)
  | showIpRoute
  | cli (commands : List Command)
  | interfaceUp (name : String)
  | interfaceDown (name : String)
  | deleteInterface (name : String)
  | importConfig (configText filename : String)
  | save
  deriving DecidableEq

def Request.path : Request → String
  | showInterfaces => "/rci/show/interface"
  | showInterface name => s!"/rci/show/interface/{name}"
  | showIpRoute => "/rci/show/ip/route"
  | cli _ => "/rci/"
  | interfaceUp name => s!"/rci/interface/{name}/up"
  | interfaceDown name => s!"/rci/interface/{name}/down"
  | deleteInterface name => s!"/rci/interface/{name}"
  | importConfig _ _ => "/rci/interface/wireguard/import"
  | save => "/rci/system/configuration/save"

/-- The text of a response, as far as decoding it can tell texts apart. -/
inductive Body where
  | blank
  | malformed
  | json (value : Json)

structure Response where
  statusCode : Nat
  body : Body

def Response.isSuccess (r : Response) : Bool := 200 ≤ r.statusCode && r.statusCode < 300

/-- The exceptions the connection itself raises. -/
inductive Fault where
  | timeout
  | socket
  | http
  | other (description : String)
  deriving DecidableEq, Repr

structure Answer where
  reply : Except Fault Response
  carriedOut : Nat → Bool

structure Exchange where
  request : Request
  answer : Answer

namespace Exchange

/-- The attempt was answered with a success status. -/
def succeeded (e : Exchange) : Bool :=
  match e.answer.reply with
  | .ok response => response.isSuccess
  | .error _ => false

/-- The router has done what an interface request asks for. -/
def done (e : Exchange) : Bool := e.succeeded || e.answer.carriedOut 0

/-- The command lines of a batch. -/
def commands (e : Exchange) : List Command :=
  match e.request with
  | .cli commands => commands
  | _ => []

/-- The command lines of a batch the router has carried out, in order. -/
def executed (e : Exchange) : List Command :=
  (e.commands.zipIdx.filter fun c => e.answer.carriedOut c.2).map Prod.fst

end Exchange

/-! ### Failures -/

/-- Every exception the service raises or lets through, with the texts of its own ones. -/
inductive Failure where
  | noAnswer
  | unreachable
  | httpStatus (status : Nat) (path : String)
  | notAuthorised (status : Nat) (path : String)
  | commandRefused (message : String)
  | noInterfaceList
  | noStandbyInterfaceList
  | noConnectionList
  | noTunnelStatus
  | incompleteConfig
  | noHandshake (message : String)
  | importIntersects (names : String)
  | importUnnamed
  | importNotAuthorised
  | importNoAnswer
  | importUnreachable
  | deleteRefused (path : String)
  | notSelectedForFullTunnel
  | notSelectedForRouting
  | notSelectedForCheck
  | notSelectedForControl
  | notFound
  | standbyIsMain
  | noSeparateStandby
  | notApplied (message : String)
  | standbyNotEnabled (error : String)
  | fault (cause : Fault)
  | format
  | typeError
  | unsupported

namespace Failure

/-- `KeeneticSetupException.message`, absent for other exceptions. -/
def message? : Failure → Option String
  | noAnswer => some "Роутер не ответил за 15 секунд. Проверьте KeenDNS или локальный адрес."
  | unreachable => some "Адрес роутера недоступен: DNS или соединение не установлены."
  | httpStatus status path => some s!"Keenetic ответил HTTP {status} на {path}."
  | notAuthorised status path => some s!"Keenetic не авторизовал команду {path}: HTTP {status}."
  | commandRefused message => some message
  | noInterfaceList => some "Keenetic не вернул список интерфейсов."
  | noStandbyInterfaceList => some "Keenetic не вернул список интерфейсов для резерва."
  | noConnectionList => some "Keenetic не вернул список подключений."
  | noTunnelStatus => some "Keenetic не вернул статус туннеля."
  | incompleteConfig => some "Файл не похож на полный AmneziaWG/WireGuard конфиг."
  | noHandshake message => some message
  | importIntersects names =>
      some s!"Keenetic сообщает, что конфиг пересекается с интерфейсами: {names}."
  | importUnnamed => some "Keenetic импортировал конфиг, но не вернул имя интерфейса."
  | importNotAuthorised => some "Keenetic не авторизовал импорт WireGuard-конфига."
  | importNoAnswer => some "Роутер не ответил за 15 секунд при импорте WireGuard."
  | importUnreachable => some "Адрес роутера недоступен при импорте WireGuard."
  | deleteRefused path => some s!"Keenetic не выполнил DELETE {path}."
  | notSelectedForFullTunnel => some "Не выбран WireGuard-интерфейс для full tunnel."
  | notSelectedForRouting => some "Не выбран WireGuard-интерфейс для маршрутизации."
  | notSelectedForCheck => some "Не выбран WireGuard-интерфейс для проверки."
  | notSelectedForControl =>
      some "Сначала откройте Router1 в сети этого роутера и выполните проверку подключения."
  | notFound => some "Подключение Router1 на этом роутере не найдено."
  | standbyIsMain => some "Резервный конфиг совпал с основным подключением."
  | noSeparateStandby => some "На роутере не найден отдельный резервный маршрут Router1."
  | notApplied message => some s!"Настройка не применена: {message}. Старый маршрут восстановлен."
  | standbyNotEnabled error => some s!"Резерв не включён, основной маршрут сохранён: {error}"
  | fault _ | format | typeError | unsupported => none

/-- `toString()`, which for the service's own exception is its message. -/
def toText (error : Failure) : String :=
  match error, error.message? with
  | _, some message => message
  | fault .timeout, none => "TimeoutException"
  | fault .socket, none => "SocketException"
  | fault .http, none => "HttpException"
  | fault (.other description), none => description
  | format, none => "FormatException"
  | typeError, none => "TypeError"
  | _, none => "UnsupportedError"

/-- `_isTransientKeeneticError`. -/
def isTransient : Failure → Bool
  | fault .timeout | fault .socket | fault .http => true
  | error =>
      match error.message? with
      | none => false
      | some message =>
          let text := toLowerCase message
          contains text "не ответил" || contains text "недоступен" ||
            contains text "connection closed" || contains text "connection reset" ||
            contains text "broken pipe"

end Failure

/-! ### The session and the net -/

inductive Call where
  | exchange (request : Request)
  | lookup (domain : String)
  | selected (host : String)
  | setSelected (host name : String)
  | standby (host : String)
  | setStandby (host name : String)

def Call.Answer : Call → Type
  | exchange _ => Except Fault Response
  | lookup _ => Option (List InternetAddress)
  | selected _ => Option String
  | setSelected _ _ => Unit
  | standby _ => Option String
  | setStandby _ _ => Unit

/-- Requests and lookups are awaited; the records are in memory. -/
def Call.awaited : Call → Bool
  | exchange _ | lookup _ => true
  | selected _ | setSelected _ _ | standby _ | setStandby _ _ => false

/-- What the outside answers: the n-th attempt, and the n-th lookup, where no answer is a failure. -/
structure Net where
  answers : Nat → Answer
  lookups : Nat → Option (List InternetAddress)

structure Lookup where
  domain : String
  answer : Option (List InternetAddress)

structure Session where
  selectedInterfaceByHost : String → Option String
  standbyInterfaceByHost : String → Option String
  exchanges : List Exchange
  lookups : List Lookup

def Net.handle (net : Net) : Program.Handler Call Call.Answer Session
  | .exchange request, s =>
      let answer := net.answers s.exchanges.length
      (answer.reply, { s with exchanges := s.exchanges ++ [⟨request, answer⟩] })
  | .lookup domain, s =>
      let answer := net.lookups s.lookups.length
      (answer, { s with lookups := s.lookups ++ [⟨domain, answer⟩] })
  | .selected host, s => (s.selectedInterfaceByHost host, s)
  | .setSelected host name, s =>
      ((), { s with selectedInterfaceByHost := Function.update s.selectedInterfaceByHost host (some name) })
  | .standby host, s => (s.standbyInterfaceByHost host, s)
  | .setStandby host name, s =>
      ((), { s with standbyInterfaceByHost := Function.update s.standbyInterfaceByHost host (some name) })

abbrev Rci := Program Call Call.Answer Failure

def exchange (request : Request) : Rci (Except Fault Response) := Program.request (Call.exchange request)
def lookup (domain : String) : Rci (Option (List InternetAddress)) :=
  Program.request (Call.lookup domain)
def selectedInterface (host : String) : Rci (Option String) := Program.request (Call.selected host)
def setSelectedInterface (host name : String) : Rci Unit := Program.request (Call.setSelected host name)
def standbyInterface (host : String) : Rci (Option String) := Program.request (Call.standby host)
def setStandbyInterface (host name : String) : Rci Unit := Program.request (Call.setStandby host name)

/-! ### The service's request functions -/

structure KeeneticAccess where
  ip : String
  testMode : Bool

/-- What `_get` and `_postRci` turn a fault into. -/
def Fault.failure : Fault → Failure
  | timeout => .noAnswer
  | socket => .unreachable
  | cause => .fault cause

/-- `_get`: any status is a response. -/
def get (request : Request) : Rci Response := do
  match ← exchange request with
  | .ok response => pure response
  | .error cause => throw cause.failure

/-- `_postRci`: only a success status is a response. -/
def postRci (request : Request) : Rci Body := do
  match ← exchange request with
  | .ok response =>
      if response.isSuccess then pure response.body
      else if response.statusCode = 401 ∨ response.statusCode = 403 then
        throw (.notAuthorised response.statusCode request.path)
      else throw (.httpStatus response.statusCode request.path)
  | .error cause => throw cause.failure

/-- `_deleteRci`, which lets the exceptions of the connection through. -/
def deleteRci (name : String) : Rci Unit := do
  match ← exchange (.deleteInterface name) with
  | .ok response =>
      if response.isSuccess then pure ()
      else throw (.deleteRefused (Request.deleteInterface name).path)
  | .error cause => throw (.fault cause)

/-- The attempts left after a transient error. -/
def retryFrom {α : Type} (operation : Rci α) : Nat → Rci α
  | 0 => operation
  | attempts + 1 =>
      MonadExcept.tryCatch operation fun error =>
        if error.isTransient then retryFrom operation attempts else throw error

/-- `_retryKeenetic`: three attempts. -/
def retryKeenetic {α : Type} (operation : Rci α) : Rci α := retryFrom operation 2

def jsonDecode : Body → Rci Json
  | .json value => pure value
  | .blank | .malformed => throw .format

def getJson (request : Request) : Rci Json := do
  let response ← retryKeenetic (get request)
  if response.isSuccess then jsonDecode response.body
  else throw (.httpStatus response.statusCode request.path)

/-- The message of the first status of kind error in one status list. -/
def firstStatusError : List Json → Option String
  | [] => none
  | status :: statuses =>
      if (status.field "status").isText "error" then
        some (((status.field "message").toText? <|> (status.field "ident").toText?).getD
          "команда Keenetic не выполнена")
      else firstStatusError statuses

/-- The message of the first refused line in the reply to a batch. -/
def firstError : List Json → Option String
  | [] => none
  | item :: items =>
      match (item.field "parse").field "status" with
      | .arr statuses => firstStatusError statuses <|> firstError items
      | _ => firstError items

def runCliCommands (commands : List Command) (ignoreErrors : Bool) : Rci Unit := do
  if commands.isEmpty then pure ()
  else
    let body ← retryKeenetic (postRci (.cli commands))
    match ignoreErrors, body with
    | true, _ | false, .blank => pure ()
    | false, body =>
        match ← jsonDecode body with
        | .arr items =>
            match firstError items with
            | some message => throw (.commandRefused message)
            | none => pure ()
        | _ => pure ()

/-- `_saveConfiguration` with `ignoreTransient`, as every caller has it. -/
def saveConfiguration : Rci Unit :=
  MonadExcept.tryCatch (do let _ ← retryKeenetic (postRci .save); pure ()) fun error =>
    if error.isTransient then pure () else throw error

end Keenetic
