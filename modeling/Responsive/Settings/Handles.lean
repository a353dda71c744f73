import Responsive.Settings.Store

/-!
# Handles of stores

Programs work with stores through handles. A clone of a handle is one more handle of the same store,
so what is done through one of them is seen through all.
-/

set_option autoImplicit false
set_option relaxedAutoImplicit false

namespace Responsive

/-- What a store may be asked for; `α` is the type that records are decoded into. -/
inductive Store.Ask (α : Type)
  | register (d : Definition)
  /-- Stores a value, as far as it has a form as JSON. -/
  | set (name : String) (value : Except Json.DecodeError Json)
  | remove (name : String)
  | get (decoder : Json.Decoder α) (name : String)
  | getOrDefault (decoder : Json.Decoder α) (name : String)
  | describe (name : String)
  | registered

/-- What a store replies. -/
inductive Store.Reply (α : Type)
  | done
  /-- Whether there was a record to remove. -/
  | removed (existed : Bool)
  /-- The record, if there is one. -/
  | found (record : Option α)
  /-- The record or its default. -/
  | value (a : α)
  | definition (d : Option Definition)
  | names (names : List String)

namespace Store

variable {m : Type → Type} [Monad m] {α : Type}

/-- Asks a store. -/
def ask (fs : FileSystem m) : Ask α → Update m (Reply α)
  | .register d => do
    let store ← liftExcept ((← get).register d)
    MonadStateOf.set store
    return .done
  | .set name value => do
    setEncoded fs name value
    return .done
  | .remove name => return .removed (← remove fs name)
  | .get decoder name => return .found (← liftExcept ((← MonadState.get).get? decoder name))
  | .getOrDefault decoder name =>
    return .value (← liftExcept ((← MonadState.get).getOrDefault decoder name))
  | .describe name => return .definition ((← MonadState.get).describe? name)
  | .registered => return .names (← MonadState.get).registered

/-- Asks a store one question after the other, whatever it answers; every question is returned with
its answer. -/
def askAll (fs : FileSystem m) :
    List (Ask α) → StateT Store m (List (Ask α × Except SettingsError (Reply α)))
  | [] => return []
  | question :: questions => do
    let answer ← (ask fs question).run
    let rest ← askAll fs questions
    return (question, answer) :: rest

end Store

/-- Stores, the store that each handle is for, and the files that the stores work on. -/
structure Handles (σ : Type) where
  stores : List Store := []
  handles : List Nat := []
  files : σ

namespace Handles

/-- What is done with handles. -/
inductive Event (α : Type)
  | inMemory
  | openDocument (path : String) (create : Bool)
  | clone (handle : Nat)
  | ask (handle : Nat) (question : Store.Ask α)

/-- What comes of it. -/
inductive Response (α : Type)
  /-- There is a new handle. -/
  | handle (number : Nat)
  | answer (answer : Except SettingsError (Store.Reply α))
  /-- No store is opened. -/
  | refused (e : SettingsError)
  /-- There is no handle of that number. -/
  | noHandle

variable {σ α : Type}

/-- Adds a handle of a store. -/
def addHandle (s : Handles σ) (store : Nat) : Response α × Handles σ :=
  (.handle s.handles.length, { s with handles := s.handles ++ [store] })

/-- Adds a store and a handle of it. -/
def addStore (s : Handles σ) (store : Store) : Response α × Handles σ :=
  { s with stores := s.stores ++ [store] }.addHandle s.stores.length

/-- What an event does. -/
def step (fs : FileSystem (StateM σ)) (process : String) (s : Handles σ) :
    Event α → Response α × Handles σ
  | .inMemory => s.addStore .inMemory
  | .openDocument path create =>
    match (Store.openDocument fs process path create).run s.files with
    | (.ok store, files) => { s with files }.addStore store
    | (.error e, files) => (.refused e, { s with files })
  | .clone handle =>
    match s.handles[handle]? with
    | none => (.noHandle, s)
    | some i => s.addHandle i
  | .ask handle question =>
    match s.handles[handle]? with
    | none => (.noHandle, s)
    | some i =>
      match s.stores[i]? with
      | none => (.noHandle, s)
      | some store =>
        let ((answer, store), files) := ((Store.ask fs question).run.run store).run s.files
        (.answer answer, { s with stores := s.stores.set i store, files })

/-- What a list of events does, with the response to each. -/
def run (fs : FileSystem (StateM σ)) (process : String) (s : Handles σ) :
    List (Event α) → List (Event α × Response α) × Handles σ
  | [] => ([], s)
  | event :: events =>
    let (response, next) := s.step fs process event
    let (responses, last) := run fs process next events
    ((event, response) :: responses, last)

end Handles

end Responsive
