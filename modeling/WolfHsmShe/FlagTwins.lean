import WolfHsmShe.Dispatch

/-!
# The flags the server reads

`hsmSheLoadKey` tests `WRITE_PROTECT` and `WILDCARD`, and no handler reads another flag bit.
-/

namespace WolfHsmShe

section FlagTwin

variable (p : Platform)

/-! ## Flag twins -/

/-- The flag bits the server reads: `WRITE_PROTECT` and `WILDCARD`. -/
def readFlags : BitVec 32 := p.flagWriteProtect ||| p.flagWildcard

/-- Two key objects alike in all the server reads: the key, the counter and the read flags. -/
def Agree (o o' : KeyObj) : Prop :=
  o.key = o'.key ∧ o.count = o'.count ∧ o.flags &&& readFlags p = o'.flags &&& readFlags p

theorem Agree.refl (o : KeyObj) : Agree p o o := ⟨rfl, rfl, rfl⟩

/-- Two results of a step: the same error, or related values. -/
def Related {α β : Type} (R : α → β → Prop) : Except Err α → Except Err β → Prop
  | .ok a, .ok b => R a b
  | .error e, .error e' => e = e'
  | _, _ => False

theorem Related.refl {α : Type} (x : Except Err α) : Related Eq x x := by
  cases x <;> rfl

/-- Two servers of one session whose stores hold objects at the same ids, agreeing there. -/
structure FlagTwin (s₁ s₂ : Server) : Prop where
  she : s₁.she = s₂.she
  client : s₁.clientId = s₂.clientId
  keys : ∀ id, Option.Rel (Agree p) (s₁.keys id) (s₂.keys id)

/-- Two handler steps that, run on flag twins, give related results and leave flag twins. -/
def FlagBlind {α β : Type} (R : α → β → Prop) (x : SheM α) (y : SheM β) : Prop :=
  ∀ s₁ s₂, FlagTwin p s₁ s₂ → Related R (x s₁).1 (y s₂).1 ∧ FlagTwin p (x s₁).2 (y s₂).2

variable {p} {α β γ δ : Type} {R : α → β → Prop} {R' : γ → δ → Prop}

/-! ## The primitives of the handler monad -/

theorem flagBlind_pure {a : α} {b : β} (h : R a b) : FlagBlind p R (pure a) (pure b) :=
  fun _ _ ht => ⟨h, ht⟩

theorem flagBlind_fail (e : Err) : FlagBlind p R (fail e) (fail e) := fun _ _ ht => ⟨rfl, ht⟩

theorem flagBlind_call {x : Except Err α} {y : Except Err β} (h : Related R x y) :
    FlagBlind p R (call x) (call y) := fun _ _ ht => ⟨h, ht⟩

theorem flagBlind_getShe : FlagBlind p Eq getShe getShe := fun _ _ ht => ⟨ht.she, ht⟩

theorem flagBlind_modifyShe (g : She → She) : FlagBlind p Eq (modifyShe g) (modifyShe g) :=
  fun _ _ ht => ⟨rfl, ⟨by simp [ht.she], ht.client, ht.keys⟩⟩

theorem flagBlind_readKey (env : Env) (slot : Nat) :
    FlagBlind p (Related (Agree p)) (readKey p env slot) (readKey p env slot) := by
  intro s₁ s₂ ht
  refine ⟨?_, ht⟩
  simp only [readKey_run, readResult, ht.client]
  have hk := ht.keys (sheKeyId p s₂.clientId slot)
  cases env.readFault (sheKeyId p s₂.clientId slot) with
  | some e => rfl
  | none =>
    generalize s₁.keys (sheKeyId p s₂.clientId slot) = a at hk ⊢
    generalize s₂.keys (sheKeyId p s₂.clientId slot) = b at hk ⊢
    cases hk with
    | some h => exact h
    | none => rfl

theorem flagBlind_writeKey (fault : KeyId → Option Err) (slot : Nat) {o o' : KeyObj}
    {R : Except Err Unit → Except Err Unit → Prop} (hR : ∀ r, R r r) (h : Agree p o o') :
    FlagBlind p R (writeKey p fault slot o) (writeKey p fault slot o') := by
  intro s₁ s₂ ht
  simp only [writeKey, ht.client]
  split
  · exact ⟨hR _, ht⟩
  · refine ⟨hR _, ht.she, rfl, fun id => ?_⟩
    by_cases e : id = sheKeyId p s₂.clientId slot
    · subst e
      simp only [Function.update_same]
      exact .some h
    · simp only [Function.update_noteq e]
      exact ht.keys id

theorem flagBlind_bind {x : SheM α} {y : SheM β} {f : α → SheM γ} {g : β → SheM δ}
    (hx : FlagBlind p R x y) (hk : ∀ a b, R a b → FlagBlind p R' (f a) (g b)) :
    FlagBlind p R' (x >>= f) (y >>= g) := by
  intro s₁ s₂ ht
  have ⟨hr, ht'⟩ := hx s₁ s₂ ht
  simp only [SheM.bind_run]
  rcases h₁ : x s₁ with ⟨_ | a, s₁'⟩ <;> rcases h₂ : y s₂ with ⟨_ | b, s₂'⟩ <;>
    simp only [h₁, h₂, Related] at hr ht'
  · exact ⟨hr, ht'⟩
  · exact hk a b hr s₁' s₂' ht'

theorem flagBlind_ite {c c' : Prop} [Decidable c] [Decidable c'] {x₁ x₂ : SheM α}
    {y₁ y₂ : SheM β} (hc : c ↔ c') (h₁ : FlagBlind p R x₁ y₁) (h₂ : FlagBlind p R x₂ y₂) :
    FlagBlind p R (if c then x₁ else x₂) (if c' then y₁ else y₂) := by
  by_cases h : c
  · rw [if_pos h, if_pos (hc.1 h)]; exact h₁
  · rw [if_neg h, if_neg (mt hc.2 h)]; exact h₂

theorem flagBlind_doIf {c c' : Prop} [Decidable c] [Decidable c'] {x y : SheM Unit} (hc : c ↔ c')
    (h : FlagBlind p Eq x y) : FlagBlind p Eq (doIf c x) (doIf c' y) :=
  flagBlind_ite hc h (flagBlind_pure rfl)

theorem flagBlind_check {c c' : Prop} [Decidable c] [Decidable c'] (hc : c ↔ c') (e : Err) :
    FlagBlind p Eq (check c e) (check c' e) :=
  flagBlind_doIf hc (flagBlind_fail e)

theorem flagBlind_orFail {x : SheM (Except Err α)} {y : SheM (Except Err β)} (err : Err)
    (h : FlagBlind p (Related R) x y) : FlagBlind p R (orFail err x) (orFail err y) := by
  refine flagBlind_bind h fun a b hab => ?_
  rcases a with _ | a <;> rcases b with _ | b <;> simp only [Related] at hab
  · exact flagBlind_fail _
  · exact flagBlind_pure hab

theorem flagBlind_readKeyOr (env : Env) (err : Err) (slot : Nat) :
    FlagBlind p (Agree p) (readKeyOr p env err slot) (readKeyOr p env err slot) :=
  flagBlind_orFail err (flagBlind_readKey env slot)

theorem flagBlind_bind_eq {x y : SheM α} {f : α → SheM γ} {g : α → SheM δ}
    (hx : FlagBlind p Eq x y) (hk : ∀ a, FlagBlind p R' (f a) (g a)) :
    FlagBlind p R' (x >>= f) (y >>= g) :=
  flagBlind_bind hx fun a _ h => h ▸ hk a

theorem flagBlind_bind_readKey (env : Env) (slot : Nat) {f : Except Err KeyObj → SheM γ}
    {g : Except Err KeyObj → SheM δ}
    (hok : ∀ o o', Agree p o o' → FlagBlind p R' (f (.ok o)) (g (.ok o')))
    (herr : ∀ e, FlagBlind p R' (f (.error e)) (g (.error e))) :
    FlagBlind p R' (readKey p env slot >>= f) (readKey p env slot >>= g) := by
  refine flagBlind_bind (flagBlind_readKey env slot) fun a b hab => ?_
  rcases a with _ | a <;> rcases b with _ | b <;> simp only [Related] at hab
  · exact hab ▸ herr _
  · exact hok a b hab

theorem Agree.and_eq {o o' : KeyObj} (h : Agree p o o') {b : BitVec 32}
    (hb : b &&& readFlags p = b) : o.flags &&& b = o'.flags &&& b := by
  calc o.flags &&& b = (o.flags &&& readFlags p) &&& b := by
        rw [BitVec.and_assoc, BitVec.and_comm (readFlags p), hb]
    _ = (o'.flags &&& readFlags p) &&& b := by rw [h.2.2]
    _ = o'.flags &&& b := by rw [BitVec.and_assoc, BitVec.and_comm (readFlags p), hb]

theorem readFlags_keeps {b : BitVec 32} (hb : b = p.flagWriteProtect ∨ b = p.flagWildcard) :
    b &&& readFlags p = b := by
  ext i
  rcases hb with rfl | rfl <;> simp only [readFlags, BitVec.getLsbD_and, BitVec.getLsbD_or] <;>
    cases BitVec.getLsbD _ i <;> simp

end FlagTwin

variable (p : Platform) (env : Env)

/-! ## The handlers -/

theorem loadKeyWrite_flagBlind (m1 : Buf 16) (plain : Buf 32) :
    FlagBlind p (Agree p) (loadKeyWrite p env m1 plain) (loadKeyWrite p env m1 plain) := by
  unfold loadKeyWrite cacheKey addObject
  refine flagBlind_ite Iff.rfl ?_ ?_
  · exact flagBlind_bind_eq (flagBlind_orFail _ (flagBlind_writeKey _ _ Related.refl (Agree.refl _ _)))
      fun _ => flagBlind_pure (Agree.refl _ _)
  · exact flagBlind_bind_eq (flagBlind_orFail _ (flagBlind_writeKey _ _ Related.refl (Agree.refl _ _)))
      fun _ => flagBlind_readKeyOr _ _ _

theorem loadKeyCheck_flagBlind (m1 : Buf 16) (plain : Buf 32) :
    FlagBlind p Eq (loadKeyCheck p env m1 plain) (loadKeyCheck p env m1 plain) := by
  unfold loadKeyCheck
  refine flagBlind_bind_readKey _ _ (fun o o' h => ?_) fun e => ?_
  · have hwp := h.and_eq (readFlags_keeps (.inl rfl))
    have hwc := h.and_eq (readFlags_keeps (.inr rfl))
    refine flagBlind_bind_eq (flagBlind_check ?_ _) fun _ => flagBlind_bind_eq flagBlind_getShe
      fun she => flagBlind_bind_eq (flagBlind_check ?_ _) fun _ => flagBlind_check ?_ _
    · simp only [isNotFound, targetMeta, hwp]
    · simp only [uidRejected, targetMeta, hwc]
    · simp only [isNotFound, targetMeta, h.2.1]
  · exact flagBlind_bind_eq (flagBlind_check Iff.rfl _) fun _ => flagBlind_bind_eq flagBlind_getShe
      fun _ => flagBlind_bind_eq (flagBlind_check Iff.rfl _) fun _ => flagBlind_check Iff.rfl _

set_option maxRecDepth 600 in
theorem sheHandler_flagBlind (req : Request) :
    FlagBlind p Eq (sheHandler p env req) (sheHandler p env req) := by
  cases req <;>
  simp only [sheHandler, hsmSheSetUid, hsmSheSecureBootInit, hsmSheSecureBootUpdate,
    hsmSheSecureBootFinish, hsmSheGetStatus, hsmSheLoadKey, loadKeyDecrypt,
    loadKeyConfirm, hsmSheLoadPlainKey, hsmSheExportRamKey, hsmSheInitRnd,
    hsmSheRnd, hsmSheExtendSeed, hsmSheEncEcb, hsmSheEncCbc, hsmSheDecEcb, hsmSheDecCbc,
    hsmSheAesMode, hsmSheGenerateMac, hsmSheVerifyMac, cmacStart, cmacFeed, cmacFinal,
    cmacGenerate, aesMp16Into, addObject, cacheKey] <;>
  repeat
    first
    | with_reducible refine flagBlind_bind (flagBlind_readKeyOr _ _ _) fun _ _ h => ?_
      obtain ⟨hk, hc, hf⟩ := h
      try simp only [hk, hc]
    | with_reducible refine flagBlind_bind_readKey _ _ (fun _ _ h => ?_) fun _ => ?_
      obtain ⟨hk, hc, hf⟩ := h
      try simp only [hk, hc]
    | with_reducible refine flagBlind_bind (loadKeyWrite_flagBlind p env _ _) fun _ _ h => ?_
      obtain ⟨hk, hc, hf⟩ := h
      try simp only [hk, hc]
    | with_reducible refine flagBlind_bind_eq ?_ fun _ => ?_
    | with_reducible exact flagBlind_getShe
    | with_reducible exact flagBlind_modifyShe _
    | with_reducible exact flagBlind_call (Related.refl _)
    | with_reducible exact flagBlind_pure rfl
    | with_reducible exact flagBlind_fail _
    | with_reducible exact flagBlind_check Iff.rfl _
    | with_reducible refine flagBlind_doIf Iff.rfl ?_
    | with_reducible refine flagBlind_orFail _ ?_
    | with_reducible refine flagBlind_ite Iff.rfl ?_ ?_
    | with_reducible exact loadKeyCheck_flagBlind p env _ _
    | with_reducible refine flagBlind_writeKey _ _ (fun _ => rfl) ?_
    | with_reducible refine flagBlind_writeKey _ _ Related.refl ?_
    | exact Agree.refl _ _
    | exact ⟨rfl, rfl, ‹_›⟩
    | split

/-! ## Runs -/

theorem dispatch_flagTwin {s₁ s₂ : Server} (ht : FlagTwin p s₁ s₂) (req : Request) :
    (whServerHandleSheRequest p env s₁ req).2 = (whServerHandleSheRequest p env s₂ req).2 ∧
      FlagTwin p (whServerHandleSheRequest p env s₁ req).1
        (whServerHandleSheRequest p env s₂ req).1 := by
  have ⟨hr, ht'⟩ := sheHandler_flagBlind p env req s₁ s₂ ht
  unfold whServerHandleSheRequest
  rw [ht.she]
  split
  · exact ⟨rfl, ht⟩
  · rcases h₁ : sheHandler p env req s₁ with ⟨_ | a, s₁'⟩ <;>
      rcases h₂ : sheHandler p env req s₂ with ⟨_ | a', s₂'⟩ <;>
      simp only [h₁, h₂, Related] at hr ht' <;> subst hr
    · exact ⟨rfl, by simp [ht'.she], ht'.client, ht'.keys⟩
    · exact ⟨rfl, ht'⟩

/-- Servers whose stores differ only in flag bits other than `WRITE_PROTECT` and `WILDCARD`
give the same replies along any run, and stay so related. -/
theorem flag_twins_agree_on_runs {s₁ s₂ : Server} (ht : FlagTwin p s₁ s₂) (reqs : List Request) :
    (trace p env s₁ reqs).map Step.reply = (trace p env s₂ reqs).map Step.reply ∧
      FlagTwin p (run p env s₁ reqs) (run p env s₂ reqs) := by
  induction reqs generalizing s₁ s₂ with
  | nil => exact ⟨rfl, ht⟩
  | cons req reqs ih =>
    have ⟨hr, ht'⟩ := dispatch_flagTwin p env ht req
    have ⟨ihr, iht⟩ := ih ht'
    exact ⟨by simp only [trace, List.map_cons, hr, ihr], iht⟩

def sampleUsageKeys : KeyStore := fun id =>
  if id = ⟨1, 0, 0⟩ then some ⟨0x70, 0, .replicate 16 0x44⟩
  else if id = ⟨1, 0, 1⟩ then some ⟨0x70, 0, .replicate 16 0x11⟩ else none

def samplePlainKeys : KeyStore := fun id =>
  if id = ⟨1, 0, 0⟩ then some ⟨0, 0, .replicate 16 0x44⟩
  else if id = ⟨1, 0, 1⟩ then some ⟨0, 0, .replicate 16 0x11⟩ else none

theorem flag_twins_agree_on_runs_sample :
    let p := Platform.sample .big
    let reqs := [.setUid (.replicate 15 7), .secureBootInit 0, .encEcb 1 16 (List.replicate 16 0x5a),
      .genMac 1 16 (List.replicate 16 0x5a), .initRnd, .rnd]
    FlagTwin p (Server.start 0 samplePlainKeys) (Server.start 0 sampleUsageKeys) ∧
      (trace p Env.sample (Server.start 0 samplePlainKeys) reqs).map Step.reply =
        (trace p Env.sample (Server.start 0 sampleUsageKeys) reqs).map Step.reply ∧
      FlagTwin p (run p Env.sample (Server.start 0 samplePlainKeys) reqs)
        (run p Env.sample (Server.start 0 sampleUsageKeys) reqs) :=
  have ht : FlagTwin (Platform.sample .big) (Server.start 0 samplePlainKeys)
      (Server.start 0 sampleUsageKeys) := ⟨rfl, rfl, fun id => by
    simp only [Server.start, samplePlainKeys, sampleUsageKeys]
    split_ifs
    · exact .some ⟨rfl, rfl, by decide⟩
    · exact .some ⟨rfl, rfl, by decide⟩
    · exact .none⟩
  ⟨ht, flag_twins_agree_on_runs _ _ ht _⟩

end WolfHsmShe
