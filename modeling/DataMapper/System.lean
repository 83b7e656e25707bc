import DataMapper.Configuration
import DataMapper.Mapper.Proxy
/-!
# The system of sessions

All open sessions over one configuration, with the regions, the data source and the mappers that
they share. A run is a sequence of steps, each of which is one call of one of the sessions or a
change of the data source.
-/

namespace DataMapper

structure System where
  configuration : Configuration := {}
  shared : Shared := {}
  sessions : Table Nat Session := .empty
  /-- The number of sessions ever opened, which is also that of the next one. -/
  opened : Nat := 0
  /-- Factories outside of the registry. -/
  standalone : List MapperFactory := []

/-- The steps of a run. -/
inductive Step where
  | openSession (autoCommit : Option Bool)
  | dropSession (session : Nat)
  | call (session : Nat) (call : SessionCall)
  | setRows (statement : String) (rows : Rows)
  | setAffected (statement : String) (n : Nat)
  | fail (point : FailPoint)
  | heal (point : FailPoint)

/-- The answers to steps. -/
inductive Reply where
  | opened (session : Nat) (autoCommit : Bool)
  | refused (e : Error)
  | answered (outcome : Outcome SessionReply)
  | done
  | noSession

namespace System

/-- A fresh executor on a connection, behind a cache if the settings say so. -/
def newExecutor (settings : Settings) : Executor :=
  let executor := .direct { environment := settings.environmentId }
  if settings.cacheEnabled then .caching .empty executor else executor

/-- Opens a session, by default in the mode of the settings. -/
def openSession (s : System) (autoCommit : Option Bool) : Reply × System :=
  let source := s.shared.source
  if source.fails .opening then (.refused (DataSource.failure .opening), s)
  else
    let settings := s.configuration.settings
    let autoCommit := autoCommit.getD settings.defaultAutoCommit
    let session : Session := { executor := newExecutor settings, autoCommit }
    (.opened s.opened autoCommit,
      { s with
        shared := { s.shared with source := { source with opened := source.opened + 1 } }
        sessions := s.sessions.insert s.opened session
        opened := s.opened + 1 })

def dropSession (s : System) (id : Nat) : Reply × System :=
  match s.sessions.get? id with
  | none => (.noSession, s)
  | some session =>
    (.done, { s with shared := session.drop s.shared, sessions := s.sessions.erase id })

def call (s : System) (id : Nat) (call : SessionCall) : Reply × System :=
  match s.sessions.get? id with
  | none => (.noSession, s)
  | some session =>
    let (outcome, session, shared) :=
      session.perform s.configuration.toCatalog s.shared call
    (.answered outcome, { s with shared, sessions := s.sessions.insert id session })

def modifySource (s : System) (f : DataSource → DataSource) : System :=
  { s with shared := { s.shared with source := f s.shared.source } }

def step (s : System) : Step → Reply × System
  | .openSession autoCommit => s.openSession autoCommit
  | .dropSession id => s.dropSession id
  | .call id call => s.call id call
  | .setRows statement rows => (.done, s.modifySource fun d => d.setRows statement rows)
  | .setAffected statement n => (.done, s.modifySource fun d => d.setAffected statement n)
  | .fail point => (.done, s.modifySource fun d => d.fail point)
  | .heal point => (.done, s.modifySource fun d => d.heal point)

/-- The answers to the steps of a run, and the system after it. -/
def run (s : System) : List Step → List Reply × System
  | [] => ([], s)
  | first :: rest =>
    let (reply, s) := s.step first
    let (replies, s) := s.run rest
    (reply :: replies, s)

def factory (s : System) : FactoryRef → Except BindingError MapperFactory
  | .registered type => s.configuration.mappers.factory type
  | .standalone index =>
    match s.standalone[index]? with
    | some f => .ok f
    | none => .error (.unknownMapper (toString index))

def setFactory (s : System) (ref : FactoryRef) (f : MapperFactory) : System :=
  match ref with
  | .registered type =>
    { s with
      configuration :=
        { s.configuration with mappers := s.configuration.mappers.setFactory type f } }
  | .standalone index => { s with standalone := s.standalone.set index f }

/-- Runs a call on a mapper that is bound to an open session. -/
def onMapper {α : Type} (s : System) (proxy : MapperProxy)
    (call : Catalog → MapperState → Outcome α × MapperState) : Option (Outcome α × System) :=
  (s.sessions.get? proxy.session).map fun session =>
    match s.factory proxy.factory with
    | .error e => (.error (.error (.binding e)), s)
    | .ok factory =>
      let (outcome, st) := call s.configuration.toCatalog ⟨factory, session, s.shared⟩
      (outcome,
        { s.setFactory proxy.factory st.factory with
          shared := st.shared
          sessions := s.sessions.insert proxy.session st.session })

/-- Dispatches a call of a mapper, with room for so many default bodies inside of each other. -/
def invoke (s : System) (proxy : MapperProxy) (method : String) (args : List Arg)
    (room : Nat := 10000) : Option (Outcome MapperResult × System) :=
  s.onMapper proxy fun catalog st => st.invoke catalog proxy room method args

/-- Resolves a method of a mapper as a call would do. -/
def invoker (s : System) (proxy : MapperProxy) (method : String) :
    Option (Outcome Invoker × System) :=
  s.onMapper proxy fun catalog st =>
    match st.factory.invoker catalog method with
    | (.error e, factory) => (.error (.error (.binding e)), { st with factory })
    | (.ok invoker, factory) => (.ok invoker, { st with factory })

/-- Runs a method of an interface without a proxy, resolved for this call only. -/
def execute (s : System) (proxy : MapperProxy) (method : String) (args : List Arg) :
    Option (Outcome MapperResult × System) :=
  s.onMapper proxy fun catalog st =>
    let interface := st.factory.interface
    match interface.findMethod? method with
    | none => (.error (.error (.binding (.unknownMethod interface.name method))), st)
    | some m =>
      match MapperMethod.resolve catalog interface m with
      | .error e => (.error (.error (.binding e)), st)
      | .ok m => st.ofSession id (m.execute catalog args st.session st.shared)

end System

end DataMapper
