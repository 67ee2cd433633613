import WolfHsmShe.Basic

/-!
# The SHE state of a server, requests, replies, and the handler monad

`SheM` is a chain of `if (ret == 0)` steps: an error ends the run and keeps every change before it.
-/

namespace WolfHsmShe

/-! ## State -/

/-- The values of `enum WOLFHSM_SHE_SB_STATE`. -/
inductive SbState
  | init
  | update
  | finish
  | success
  | failure
  deriving DecidableEq, Repr

/-- The streaming CMAC context `sheCmac`: its key and the bytes fed to it since then. -/
structure CmacCtx where
  key : Block
  fed : List Byte
  deriving DecidableEq

/-- The SHE state `server->she`. -/
structure She where
  uid : Buf 15
  uidSet : Bool
  sbState : SbState
  blSize : BitVec 32
  blSizeReceived : BitVec 32
  cmacKeyFound : Bool
  rndInited : Bool
  prngState : Block
  prngKey : Block
  ramKeyPlain : Bool
  sheCmac : CmacCtx
  deriving DecidableEq

/-- The SHE state at startup: all zero. -/
def She.init : She where
  uid := Mathlib.Vector.replicate 15 0
  uidSet := false
  sbState := .init
  blSize := 0
  blSizeReceived := 0
  cmacKeyFound := false
  rndInited := false
  prngState := zeroBlock
  prngKey := zeroBlock
  ramKeyPlain := false
  sheCmac := ⟨zeroBlock, []⟩

/-- What the handlers use of `whServerContext`: the SHE state, the client id and the store. -/
structure Server where
  she : She
  clientId : Nat
  keys : KeyStore

/-! ## Requests and replies -/

/-- A request as the dispatcher receives it: the action, its fields, and the trailing `data`. -/
inductive Request
  | setUid (uid : Buf 15)
  | secureBootInit (sz : BitVec 32)
  | secureBootUpdate (sz : BitVec 32) (data : List Byte)
  | secureBootFinish
  | getStatus
  | loadKey (m1 : Buf 16) (m2 : Buf 32) (m3 : Block)
  | loadPlainKey (key : Block)
  | exportRamKey
  | initRnd
  | rnd
  | extendSeed (entropy : Block)
  | encEcb (keyId : Nat) (sz : BitVec 32) (data : List Byte)
  | encCbc (keyId : Nat) (sz : BitVec 32) (iv : Block) (data : List Byte)
  | decEcb (keyId : Nat) (sz : BitVec 32) (data : List Byte)
  | decCbc (keyId : Nat) (sz : BitVec 32) (iv : Block) (data : List Byte)
  | genMac (keyId : Nat) (sz : BitVec 32) (data : List Byte)
  | verifyMac (keyId : Nat) (messageLen macLen : BitVec 32) (data : List Byte)
  | other (action : Nat)

/-- The fields a handler writes into the packet when it succeeds. -/
inductive Resp
  | setUid
  | secureBootInit
  | secureBootUpdate
  | secureBootFinish
  | getStatus (sreg : Byte)
  | loadKey (m4 : Buf 32) (m5 : Block)
  | loadPlainKey
  | exportRamKey (m1 : Buf 16) (m2 : Buf 32) (m3 : Block) (m4 : Buf 32) (m5 : Block)
  | initRnd
  | rnd (rnd : Block)
  | extendSeed
  | cipher (sz : BitVec 32) (out : List Byte)
  | genMac (mac : Block)
  | verifyMac (status : Byte)
  deriving DecidableEq

/-- The reply packet: `rc = NO_ERROR` with the handler's fields, or an error code alone. -/
inductive Reply
  | ok (r : Resp)
  | error (e : Erc)
  deriving DecidableEq

/-! ## The handler monad -/

/-- A handler run: a result or the first error, and the server after it. -/
def SheM (α : Type) : Type := Server → Except Err α × Server

namespace SheM

variable {α β : Type}

protected def pure (a : α) : SheM α := fun s => (.ok a, s)

protected def bind (m : SheM α) (f : α → SheM β) : SheM β := fun s =>
  match m s with
  | (.ok a, s') => f a s'
  | (.error e, s') => (.error e, s')

instance : Monad SheM where
  pure := SheM.pure
  bind := SheM.bind

@[simp] theorem pure_run (a : α) (s : Server) : (pure a : SheM α) s = (.ok a, s) := rfl

theorem bind_run (m : SheM α) (f : α → SheM β) (s : Server) :
    (m >>= f) s = match m s with
      | (.ok a, s') => f a s'
      | (.error e, s') => (.error e, s') := rfl

theorem bind_ok {m : SheM α} {f : α → SheM β} {s s' : Server} {a : α}
    (h : m s = (.ok a, s')) : (m >>= f) s = f a s' := by
  rw [bind_run, h]

theorem bind_error {m : SheM α} {f : α → SheM β} {s s' : Server} {e : Err}
    (h : m s = (.error e, s')) : (m >>= f) s = (.error e, s') := by
  rw [bind_run, h]

theorem bind_eq_ok {m : SheM α} {f : α → SheM β} {s s'' : Server} {b : β}
    (h : (m >>= f) s = (.ok b, s'')) : ∃ a s', m s = (.ok a, s') ∧ f a s' = (.ok b, s'') := by
  rw [bind_run] at h
  split at h
  · exact ⟨_, _, ‹_›, h⟩
  · cases h

theorem bind_eq_ok_iff {m : SheM α} {f : α → SheM β} {s s'' : Server} {b : β} :
    (m >>= f) s = (.ok b, s'') ↔ ∃ a s', m s = (.ok a, s') ∧ f a s' = (.ok b, s'') := by
  rw [bind_run]
  rcases m s with ⟨_ | a, s'⟩
  · simp
  · exact ⟨fun h => ⟨a, s', rfl, h⟩, fun ⟨_, _, h₁, h₂⟩ => by cases h₁; exact h₂⟩

theorem bind_eq_error_iff {m : SheM α} {f : α → SheM β} {s s'' : Server} {e : Err} :
    (m >>= f) s = (.error e, s'') ↔
      m s = (.error e, s'') ∨ ∃ a s', m s = (.ok a, s') ∧ f a s' = (.error e, s'') := by
  rw [bind_run]
  rcases m s with ⟨_ | a, s'⟩
  · simp
  · exact ⟨fun h => .inr ⟨a, s', rfl, h⟩, fun h => by
      rcases h with h | ⟨_, _, h₁, h₂⟩
      · cases h
      · cases h₁; exact h₂⟩

end SheM

open SheM

def fail {α : Type} (e : Err) : SheM α := fun s => (.error e, s)

def call {α : Type} (x : Except Err α) : SheM α := fun s => (x, s)

def doIf (c : Prop) [Decidable c] (m : SheM Unit) : SheM Unit := if c then m else pure ()

/-- The source's `if (c) ret = e;`: ends the handler with `e` when `c` holds. -/
def check (c : Prop) [Decidable c] (e : Err) : SheM Unit := doIf c (fail e)

/-- A callee whose nonzero result the handler replaces by `err`. -/
def orFail {α : Type} (err : Err) (m : SheM (Except Err α)) : SheM α := do
  match ← m with
  | .ok a => pure a
  | .error _ => fail err

def getShe : SheM She := fun s => (.ok s.she, s)

def modifyShe (f : She → She) : SheM Unit := fun s => (.ok (), { s with she := f s.she })

@[simp] theorem fail_run {α : Type} (e : Err) (s : Server) : (fail e : SheM α) s = (.error e, s) :=
  rfl
@[simp] theorem call_run {α : Type} (x : Except Err α) (s : Server) : call x s = (x, s) := rfl
@[simp] theorem getShe_run (s : Server) : getShe s = (.ok s.she, s) := rfl
@[simp] theorem modifyShe_run (f : She → She) (s : Server) :
    modifyShe f s = (.ok (), { s with she := f s.she }) := rfl

/-! ### Running a handler step by step -/

@[simp] theorem bind_assoc {α β γ : Type} (m : SheM α) (f : α → SheM β) (g : β → SheM γ) :
    m >>= f >>= g = m >>= fun a => f a >>= g := by
  funext s
  simp only [SheM.bind_run]
  rcases m s with ⟨_ | a, s'⟩ <;> rfl

@[simp] theorem pure_bind_run {α β : Type} (a : α) (f : α → SheM β) (s : Server) :
    (pure a >>= f) s = f a s := rfl
@[simp] theorem fail_bind_run {α β : Type} (e : Err) (f : α → SheM β) (s : Server) :
    (fail e >>= f) s = (.error e, s) := rfl
@[simp] theorem getShe_bind_run {β : Type} (f : She → SheM β) (s : Server) :
    (getShe >>= f) s = f s.she s := rfl
@[simp] theorem modifyShe_bind_run {β : Type} (g : She → She) (f : Unit → SheM β) (s : Server) :
    (modifyShe g >>= f) s = f () { s with she := g s.she } := rfl
@[simp] theorem call_bind_run {α β : Type} (x : Except Err α) (f : α → SheM β) (s : Server) :
    (call x >>= f) s = match x with
      | .ok a => f a s
      | .error e => (.error e, s) := by
  cases x <;> rfl

@[simp] theorem doIf_run (c : Prop) [Decidable c] (m : SheM Unit) (s : Server) :
    doIf c m s = if c then m s else (.ok (), s) := by
  unfold doIf; split <;> rfl
@[simp] theorem check_run (c : Prop) [Decidable c] (e : Err) (s : Server) :
    check c e s = if c then (.error e, s) else (.ok (), s) := by
  simp [check]
@[simp] theorem doIf_bind_run {β : Type} (c : Prop) [Decidable c] (m : SheM Unit)
    (f : Unit → SheM β) (s : Server) :
    (doIf c m >>= f) s = if c then (m >>= f) s else f () s := by
  unfold doIf; split <;> rfl
@[simp] theorem check_bind_run {β : Type} (c : Prop) [Decidable c] (e : Err) (f : Unit → SheM β)
    (s : Server) : (check c e >>= f) s = if c then (.error e, s) else f () s := by
  unfold check doIf; split <;> rfl

section Store

variable (p : Platform) (env : Env)

/-- What `hsmReadKey` returns for an id of a store. -/
def readResult (keys : KeyStore) (id : KeyId) : Except Err KeyObj :=
  match env.readFault id with
  | some e => .error e
  | none =>
    match keys id with
    | some o => .ok o
    | none => .error .notFound

theorem readResult_eq_ok {keys : KeyStore} {id : KeyId} {o : KeyObj}
    (h : readResult env keys id = .ok o) : env.readFault id = none ∧ keys id = some o := by
  unfold readResult at h
  split at h
  · cases h
  · split at h <;> cases h
    exact ⟨‹_›, ‹_›⟩

/-- The call `hsmReadKey` at `MAKE_WOLFHSM_KEYID(WOLFHSM_KEYTYPE_SHE, client_id, slot)`. -/
def readKey (slot : Nat) : SheM (Except Err KeyObj) := fun s =>
  (.ok (readResult env s.keys (sheKeyId p s.clientId slot)), s)

/-- A store write at the client's SHE slot that fails with `fault` when that is set. -/
def writeKey (fault : KeyId → Option Err) (slot : Nat) (o : KeyObj) : SheM (Except Err Unit) :=
  fun s =>
    let id := sheKeyId p s.clientId slot
    match fault id with
    | some e => (.ok (.error e), s)
    | none => (.ok (.ok ()), { s with keys := Function.update s.keys id (some o) })

/-- The call `wh_Nvm_AddObject`, at the client's SHE slot. -/
def addObject (slot : Nat) (o : KeyObj) : SheM (Except Err Unit) := writeKey p env.addFault slot o

/-- The call `hsmCacheKey`, at the client's SHE slot. -/
def cacheKey (slot : Nat) (o : KeyObj) : SheM (Except Err Unit) := writeKey p env.cacheFault slot o

def readKeyOr (err : Err) (slot : Nat) : SheM KeyObj := orFail err (readKey p env slot)

@[simp] theorem readKey_run (slot : Nat) (s : Server) :
    readKey p env slot s = (.ok (readResult env s.keys (sheKeyId p s.clientId slot)), s) := rfl
@[simp] theorem readKey_bind_run {β : Type} (slot : Nat) (f : Except Err KeyObj → SheM β)
    (s : Server) :
    (readKey p env slot >>= f) s = f (readResult env s.keys (sheKeyId p s.clientId slot)) s := rfl
@[simp] theorem readKeyOr_bind_run {β : Type} (err : Err) (slot : Nat) (f : KeyObj → SheM β)
    (s : Server) :
    (readKeyOr p env err slot >>= f) s =
      match readResult env s.keys (sheKeyId p s.clientId slot) with
      | .ok o => f o s
      | .error _ => (.error err, s) := by
  unfold readKeyOr orFail
  rw [bind_assoc, readKey_bind_run]
  rcases readResult env s.keys (sheKeyId p s.clientId slot) <;> rfl
@[simp] theorem readKeyOr_state (err : Err) (slot : Nat) (s : Server) :
    (readKeyOr p env err slot s).2 = s := by
  unfold readKeyOr orFail
  simp only [SheM.bind_run, readKey_run]
  rcases readResult env s.keys (sheKeyId p s.clientId slot) <;> rfl
@[simp] theorem orFail_writeKey_bind_run {β : Type} (err : Err) (fault : KeyId → Option Err)
    (slot : Nat) (o : KeyObj) (f : Unit → SheM β) (s : Server) :
    (orFail err (writeKey p fault slot o) >>= f) s =
      match fault (sheKeyId p s.clientId slot) with
      | some _ => (.error err, s)
      | none => f () { s with keys := Function.update s.keys (sheKeyId p s.clientId slot) (some o) } := by
  cases h : fault (sheKeyId p s.clientId slot) <;>
    simp only [orFail, writeKey, bind_assoc, SheM.bind_run, h] <;> rfl

end Store

section Cmac

variable (env : Env)

/-- The call `wc_AesCmacGenerate_ex` in the session's CMAC context, which keeps key and message. -/
def cmacGenerate (key : Block) (msg : List Byte) : SheM Block := do
  modifyShe fun she => { she with sheCmac := ⟨key, msg⟩ }
  call (env.cmac key msg)

@[simp] theorem cmacGenerate_bind_run {β : Type} (key : Block) (msg : List Byte)
    (f : Block → SheM β) (s : Server) :
    (cmacGenerate env key msg >>= f) s =
      let s' := { s with she := { s.she with sheCmac := ⟨key, msg⟩ } }
      match env.cmac key msg with
      | .ok mac => f mac s'
      | .error e => (.error e, s') := by
  simp only [cmacGenerate, bind_assoc, modifyShe_bind_run, call_bind_run]
  rcases env.cmac key msg <;> rfl

/-- The call `wc_InitCmac_ex(server->she->sheCmac, key, ...)`. -/
def cmacStart (key : Block) : SheM Unit := do
  call (env.cmacInit key)
  modifyShe fun she => { she with sheCmac := ⟨key, []⟩ }

/-- The call `wc_CmacUpdate(server->she->sheCmac, data, ...)`. -/
def cmacFeed (data : List Byte) : SheM Unit := do
  let she ← getShe
  call (env.cmacUpdate she.sheCmac.key she.sheCmac.fed data)
  modifyShe fun she => { she with sheCmac := { she.sheCmac with fed := she.sheCmac.fed ++ data } }

/-- The call `wc_CmacFinal(server->she->sheCmac, ...)`. -/
def cmacFinal : SheM Block := do
  let she ← getShe
  call (env.cmac she.sheCmac.key she.sheCmac.fed)

end Cmac

end WolfHsmShe
