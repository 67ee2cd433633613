import WolfHsmShe.SecureBoot
import WolfHsmShe.KeyUpdate
import WolfHsmShe.Prng
import WolfHsmShe.Cipher

/-! # The dispatcher `wh_Server_HandleSheRequest`, and runs of it -/

namespace WolfHsmShe

/-! ## Actions -/

namespace Request

def isSetUid : Request → Bool
  | .setUid _ => true
  | _ => false

def isSecureBoot : Request → Bool
  | .secureBootInit _ | .secureBootUpdate _ _ | .secureBootFinish => true
  | _ => false

/-- The action is one the gate lets through before secure boot has succeeded. -/
def bootAction (req : Request) : Bool :=
  req.isSetUid || req.isSecureBoot || req matches .getStatus

end Request

/-- The test of `wh_Server_HandleSheRequest` that refuses a request with `SEQUENCE_ERROR`. -/
def gated (she : She) (req : Request) : Bool :=
  (she.sbState != .success && !req.bootAction) || (!req.isSetUid && !she.uidSet)

/-- The codes the dispatcher passes to the client unchanged. -/
def sheStandardErcs : List Erc :=
  [.sequenceError, .keyNotAvailable, .keyInvalid, .keyEmpty, .noSecureBoot, .writeProtected,
    .keyUpdateError, .rngSeed, .noDebugging, .busy, .memoryFailure]

/-- The code the dispatcher writes to `rc` for a handler's nonzero `ret`. -/
def replyErc : Err → Erc
  | .erc e => if e ∈ sheStandardErcs then e else .generalError
  | _ => .generalError

/-- The secure-boot reset at the end of `wh_Server_HandleSheRequest`. -/
def sbReset (she : She) : She :=
  { she with sbState := .init, blSize := 0, blSizeReceived := 0, cmacKeyFound := false }

variable (p : Platform) (env : Env)

/-- The `switch (action)` of `wh_Server_HandleSheRequest`. -/
def sheHandler : Request → SheM Resp
  | .setUid uid => hsmSheSetUid uid
  | .secureBootInit sz => hsmSheSecureBootInit p env sz
  | .secureBootUpdate sz data => hsmSheSecureBootUpdate env sz data
  | .secureBootFinish => hsmSheSecureBootFinish p env
  | .getStatus => hsmSheGetStatus p
  | .loadKey m1 m2 m3 => hsmSheLoadKey p env m1 m2 m3
  | .loadPlainKey key => hsmSheLoadPlainKey p env key
  | .exportRamKey => hsmSheExportRamKey p env
  | .initRnd => hsmSheInitRnd p env
  | .rnd => hsmSheRnd env
  | .extendSeed entropy => hsmSheExtendSeed p env entropy
  | .encEcb keyId sz data => hsmSheEncEcb p env keyId sz data
  | .encCbc keyId sz iv data => hsmSheEncCbc p env keyId sz iv data
  | .decEcb keyId sz data => hsmSheDecEcb p env keyId sz data
  | .decCbc keyId sz iv data => hsmSheDecCbc p env keyId sz iv data
  | .genMac keyId sz data => hsmSheGenerateMac p env keyId sz data
  | .verifyMac keyId messageLen macLen data => hsmSheVerifyMac p env keyId messageLen macLen data
  | .other _ => fail .badArgs

/-- The function `wh_Server_HandleSheRequest`: the server after the request, and the reply. -/
def whServerHandleSheRequest (s : Server) (req : Request) : Server × Reply :=
  if gated s.she req then (s, .error .sequenceError)
  else
    match sheHandler p env req s with
    | (.ok r, s') => (s', .ok r)
    | (.error e, s') =>
      let rc := replyErc e
      ({ s' with she := if req.isSecureBoot ∧ rc ≠ .noSecureBoot then sbReset s'.she else s'.she },
        .error rc)

theorem dispatch_of_handler_ok {s s' : Server} {req : Request} {r : Resp}
    (hg : gated s.she req = false) (h : sheHandler p env req s = (.ok r, s')) :
    whServerHandleSheRequest p env s req = (s', .ok r) := by
  simp [whServerHandleSheRequest, hg, h]

theorem dispatch_post (s : Server) (req : Request) (hsb : req.isSecureBoot = false) :
    (whServerHandleSheRequest p env s req).1 = s ∨
      (whServerHandleSheRequest p env s req).1 = (sheHandler p env req s).2 := by
  unfold whServerHandleSheRequest
  split
  · exact .inl rfl
  · right
    split <;> simp_all

theorem handler_of_dispatch_ok {s : Server} {req : Request} {r : Resp}
    (h : (whServerHandleSheRequest p env s req).2 = .ok r) :
    gated s.she req = false ∧ sheHandler p env req s = (.ok r, (whServerHandleSheRequest p env s req).1) := by
  unfold whServerHandleSheRequest at h ⊢
  cases hg : gated s.she req <;> simp only [hg, Bool.false_eq_true, if_false, if_true] at h ⊢
  · rcases hr : sheHandler p env req s with ⟨_ | r', s'⟩ <;> simp [hr] at h ⊢
    exact h
  · cases h

/-! ## Runs -/

/-- One call of the dispatcher within a run. -/
structure Step where
  pre : Server
  req : Request
  post : Server
  reply : Reply

/-- The calls of a run of requests from `s`, in order. -/
def trace : Server → List Request → List Step
  | _, [] => []
  | s, req :: reqs =>
    let r := whServerHandleSheRequest p env s req
    ⟨s, req, r.1, r.2⟩ :: trace r.1 reqs

def run : Server → List Request → Server
  | s, [] => s
  | s, req :: reqs => run (whServerHandleSheRequest p env s req).1 reqs

theorem trace_cons_of_eq {s s' : Server} {req : Request} {r : Reply}
    (h : whServerHandleSheRequest p env s req = (s', r)) (reqs : List Request) :
    trace p env s (req :: reqs) = ⟨s, req, s', r⟩ :: trace p env s' reqs := by
  simp only [trace, h]

theorem run_cons_of_eq {s s' : Server} {req : Request} {r : Reply}
    (h : whServerHandleSheRequest p env s req = (s', r)) (reqs : List Request) :
    run p env s (req :: reqs) = run p env s' reqs := by
  simp only [run, h]

theorem trace_append (s : Server) (a b : List Request) :
    trace p env s (a ++ b) = trace p env s a ++ trace p env (run p env s a) b := by
  induction a generalizing s with
  | nil => rfl
  | cons req a ih => exact congrArg _ (ih _)

theorem run_append (s : Server) (a b : List Request) :
    run p env s (a ++ b) = run p env (run p env s a) b := by
  induction a generalizing s with
  | nil => rfl
  | cons req a ih => exact ih _

theorem trace_inv {I : Server → Prop}
    (step : ∀ s req, I s → I (whServerHandleSheRequest p env s req).1)
    {s : Server} {reqs : List Request} (hs : I s) {st : Step} (h : st ∈ trace p env s reqs) :
    I st.pre ∧ whServerHandleSheRequest p env st.pre st.req = (st.post, st.reply) := by
  induction reqs generalizing s with
  | nil => cases h
  | cons req reqs ih =>
    rcases List.mem_cons.1 h with rfl | h
    · exact ⟨hs, rfl⟩
    · exact ih (step s req hs) h

theorem trace_step {s : Server} {reqs : List Request} {st : Step} (h : st ∈ trace p env s reqs) :
    whServerHandleSheRequest p env st.pre st.req = (st.post, st.reply) :=
  (trace_inv p env (I := fun _ => True) (fun _ _ _ => trivial) trivial h).2

theorem trace_later {s : Server} {reqs : List Request} {st₁ st₂ : Step}
    (h : [st₁, st₂].Sublist (trace p env s reqs)) : ∃ reqs', st₂ ∈ trace p env st₁.post reqs' := by
  induction reqs generalizing s with
  | nil => simp [trace] at h
  | cons req reqs ih =>
    simp only [trace, List.sublist_cons_iff] at h
    rcases h with h | ⟨r, hr, hsub⟩
    · exact ih h
    · obtain ⟨rfl, rfl⟩ := List.cons.inj hr
      exact ⟨reqs, hsub.subset (List.mem_singleton_self _)⟩

theorem trace_later_inv {I : Server → Prop}
    (step : ∀ s req, I s → I (whServerHandleSheRequest p env s req).1)
    {s : Server} {reqs : List Request} {st₁ st₂ : Step}
    (h : [st₁, st₂].Sublist (trace p env s reqs)) (h₁ : I st₁.post) :
    I st₂.pre ∧ whServerHandleSheRequest p env st₂.pre st₂.req = (st₂.post, st₂.reply) :=
  let ⟨_, h'⟩ := trace_later p env h
  trace_inv p env step h₁ h'

/-- A server at startup: the SHE state zeroed, a client and a provisioned key store. -/
def Server.start (client : Nat) (keys : KeyStore) : Server := ⟨She.init, client, keys⟩

/-- The servers a run from startup reaches. -/
inductive Reachable : Server → Prop
  | start (client : Nat) (keys : KeyStore) : Reachable (Server.start client keys)
  | step {s : Server} (req : Request) : Reachable s →
      Reachable (whServerHandleSheRequest p env s req).1

theorem Reachable.inv {I : Server → Prop} (start : ∀ client keys, I (Server.start client keys))
    (step : ∀ s req, I s → I (whServerHandleSheRequest p env s req).1) {s : Server}
    (h : Reachable p env s) : I s := by
  induction h with
  | start client keys => exact start client keys
  | step req _ ih => exact step _ req ih

theorem Reachable.run {s : Server} (h : Reachable p env s) (reqs : List Request) :
    Reachable p env (run p env s reqs) := by
  induction reqs generalizing s with
  | nil => exact h
  | cons req reqs ih => exact ih (.step req h)

/-! ## A sample configuration -/

/-- A platform for concrete runs: the slots 0, 2, 3, 14, 15 and the flag bits of `M2`. -/
def Platform.sample (e : Endian) : Platform where
  endian := e
  keyTypeShe := 1
  secretKeyId := 0
  bootMacKeyId := 2
  bootMac := 3
  ramKeyId := 14
  prngSeedId := 15
  slots_nodup := by decide
  flagWriteProtect := 0x80
  flagWildcard := 0x01
  sregSecureBoot := 0x02
  sregBootFinished := 0x08
  sregBootOk := 0x10
  sregRndInit := 0x20

/-- A backend for concrete runs: AES is the identity, a CMAC is its key, and no call fails. -/
def Env.sample : Env where
  aesSetKey _ := .ok ()
  aesEncrypt _ b := .ok b
  cbcEncrypt _ _ _ v := .ok v
  cbcDecrypt _ _ _ v := .ok v
  ecbEncrypt _ _ v := .ok v
  ecbDecrypt _ _ v := .ok v
  cmacInit _ := .ok ()
  cmacUpdate _ _ _ := .ok ()
  cmac k _ := .ok k
  cmacVerify _ _ _ := .ok ()
  readFault _ := none
  addFault _ := none
  cacheFault _ := none

/-- A `LOAD_KEY` for `Env.sample`, where every derived key is zero, with `M2` in clear. -/
def Request.sampleLoadKey (uid : Buf 15) (id authId : Nat) (c : BitVec 32) (k : Block) :
    Request :=
  .loadKey ⟨uid.toList ++ [BitVec.ofNat 8 (id * 16 + authId)], by simp⟩
    ⟨store32 .big (c <<< 4) ++ List.replicate 12 0 ++ k.toList, by simp⟩ zeroBlock

/-- Client 0 with keys in slots 0 and 1, after `SET_UID` and a skipped secure boot. -/
def Server.sampleBooted (p : Platform) (env : Env) : Server :=
  run p env (Server.start 0 fun id =>
      if id = ⟨1, 0, 0⟩ then some ⟨0, 0, .replicate 16 0x44⟩
      else if id = ⟨1, 0, 1⟩ then some ⟨0, 0, .replicate 16 0x11⟩ else none)
    [.setUid (.replicate 15 7), .secureBootInit 0]

end WolfHsmShe
