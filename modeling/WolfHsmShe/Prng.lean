import WolfHsmShe.AesMp

/-! # The PRNG: `INIT_RND`, `RND` and `EXTEND_SEED` -/

namespace WolfHsmShe

variable (p : Platform) (env : Env)

/-- `wh_AesMp16` into a field of the SHE state, which keeps what the loop left in it. -/
def aesMp16Into (get : She → Block) (set : She → Block → She) (input : List Byte) :
    SheM Unit := do
  let she ← getShe
  let r := whAesMp16 env (get she) input
  modifyShe fun she => set she r.1
  call r.2

@[simp] theorem aesMp16Into_bind_run {β : Type} (get : She → Block) (set : She → Block → She)
    (input : List Byte) (f : Unit → SheM β) (s : Server) :
    (aesMp16Into env get set input >>= f) s =
      match (whAesMp16 env (get s.she) input).2 with
      | .ok () => f () { s with she := set s.she (whAesMp16 env (get s.she) input).1 }
      | .error e => (.error e, { s with she := set s.she (whAesMp16 env (get s.she) input).1 }) := by
  simp only [aesMp16Into, bind_assoc, getShe_bind_run, modifyShe_bind_run, call_bind_run]
  rcases (whAesMp16 env (get s.she) input).2 with _ | ⟨⟩ <;> rfl

def hsmSheInitRnd : SheM Resp := do
  let she ← getShe
  check she.rndInited (.erc .sequenceError)
  let secret ← readKeyOr p env (.erc .keyNotAvailable) p.secretKeyId
  let seedKey ← call (aesMp16 env (secret.key.toList ++ shePrngSeedKeyC))
  let seed ← readKeyOr p env (.erc .keyNotAvailable) p.prngSeedId
  let seed' ← call (env.cbcEncrypt seedKey zeroBlock 16 seed.key)
  orFail (.erc .keyUpdateError) (addObject p env p.prngSeedId { seed with key := seed' })
  modifyShe fun she => { she with prngState := seed' }
  aesMp16Into env (·.prngKey) (fun she k => { she with prngKey := k })
    (secret.key.toList ++ shePrngKeyC)
  modifyShe fun she => { she with rndInited := true }
  pure .initRnd

theorem hsmSheInitRnd_ok {s s' : Server} {r : Resp} (h : hsmSheInitRnd p env s = (.ok r, s')) :
    s.she.rndInited = false ∧ r = .initRnd ∧ ∃ secret seed seedKey seed',
      readResult env s.keys (sheKeyId p s.clientId p.secretKeyId) = .ok secret ∧
      aesMp16 env (secret.key.toList ++ shePrngSeedKeyC) = .ok seedKey ∧
      readResult env s.keys (sheKeyId p s.clientId p.prngSeedId) = .ok seed ∧
      env.cbcEncrypt seedKey zeroBlock 16 seed.key = .ok seed' ∧
      (whAesMp16 env s.she.prngKey (secret.key.toList ++ shePrngKeyC)).2 = .ok () ∧
      s' = { s with
        keys := Function.update s.keys (sheKeyId p s.clientId p.prngSeedId)
          (some { seed with key := seed' })
        she := { s.she with
          prngState := seed'
          rndInited := true
          prngKey := (whAesMp16 env s.she.prngKey (secret.key.toList ++ shePrngKeyC)).1 } } := by
  simp only [hsmSheInitRnd, bind_assoc, getShe_bind_run, check_bind_run, readKeyOr_bind_run,
    call_bind_run, addObject, orFail_writeKey_bind_run, modifyShe_bind_run, aesMp16Into_bind_run,
    SheM.pure_run] at h
  split_ifs at h with h0
  · cases h
  rcases h1 : readResult env s.keys (sheKeyId p s.clientId p.secretKeyId) with _ | secret <;>
    simp only [h1] at h
  · cases h
  rcases h2 : aesMp16 env (secret.key.toList ++ shePrngSeedKeyC) with _ | seedKey <;>
    simp only [h2] at h
  · cases h
  rcases h3 : readResult env s.keys (sheKeyId p s.clientId p.prngSeedId) with _ | seed <;>
    simp only [h3] at h
  · cases h
  rcases h4 : env.cbcEncrypt seedKey zeroBlock 16 seed.key with _ | seed' <;> simp only [h4] at h
  · cases h
  rcases h6 : env.addFault (sheKeyId p s.clientId p.prngSeedId) with _ | _ <;>
    simp only [h6] at h
  · rcases h5 : (whAesMp16 env s.she.prngKey (secret.key.toList ++ shePrngKeyC)).2 with _ | ⟨⟩ <;>
      simp only [h5] at h
    · cases h
    simp only [Prod.mk.injEq, Except.ok.injEq] at h
    obtain ⟨rfl, rfl⟩ := h
    exact ⟨by simpa using h0, rfl, secret, seed, seedKey, seed', rfl, h2, rfl, h4, h5, rfl⟩
  · cases h

theorem hsmSheInitRnd_error {s s' : Server} {e : Err} (h : hsmSheInitRnd p env s = (.error e, s')) :
    s'.she.rndInited = s.she.rndInited ∧ (s.she.rndInited = true → e = .erc .sequenceError ∧ s' = s) := by
  simp only [hsmSheInitRnd, bind_assoc, getShe_bind_run, check_bind_run, readKeyOr_bind_run,
    call_bind_run, addObject, orFail_writeKey_bind_run, modifyShe_bind_run, aesMp16Into_bind_run,
    SheM.pure_run] at h
  split_ifs at h with h0
  · cases h
    exact ⟨rfl, fun _ => ⟨rfl, rfl⟩⟩
  · refine ⟨?_, fun h1 => absurd h1 h0⟩
    repeat' split at h
    all_goals (cases h <;> rfl)

def hsmSheRnd : SheM Resp := do
  let she ← getShe
  check (¬ she.rndInited) (.erc .rngSeed)
  let state ← call (env.cbcEncrypt she.prngKey zeroBlock 16 she.prngState)
  modifyShe fun she => { she with prngState := state }
  pure (.rnd state)

theorem hsmSheRnd_run (s : Server) :
    hsmSheRnd env s =
      if s.she.rndInited then
        match env.cbcEncrypt s.she.prngKey zeroBlock 16 s.she.prngState with
        | .ok state => (.ok (.rnd state), { s with she := { s.she with prngState := state } })
        | .error e => (.error e, s)
      else (.error (.erc .rngSeed), s) := by
  cases h : s.she.rndInited <;>
    cases hc : env.cbcEncrypt s.she.prngKey zeroBlock 16 s.she.prngState <;>
    simp [hsmSheRnd, SheM.bind_run, h, hc]

def hsmSheExtendSeed (entropy : Block) : SheM Resp := do
  let she ← getShe
  check (¬ she.rndInited) (.erc .rngSeed)
  aesMp16Into env (·.prngState) (fun she s => { she with prngState := s })
    (she.prngState.toList ++ entropy.toList)
  let seed ← readKeyOr p env (.erc .keyNotAvailable) p.prngSeedId
  let seed' ← call (aesMp16 env (seed.key.toList ++ entropy.toList))
  orFail (.erc .keyUpdateError) (addObject p env p.prngSeedId { seed with key := seed' })
  pure .extendSeed

theorem hsmSheExtendSeed_of_not_inited (entropy : Block) {s : Server} (h : s.she.rndInited = false) :
    hsmSheExtendSeed p env entropy s = (.error (.erc .rngSeed), s) := by
  simp [hsmSheExtendSeed, h]

theorem hsmSheExtendSeed_ok {entropy : Block} {s s' : Server} {r : Resp}
    (h : hsmSheExtendSeed p env entropy s = (.ok r, s')) :
    s.she.rndInited = true ∧ r = .extendSeed ∧
      (whAesMp16 env s.she.prngState (s.she.prngState.toList ++ entropy.toList)).2 = .ok () ∧
      ∃ seed seed', readResult env s.keys (sheKeyId p s.clientId p.prngSeedId) = .ok seed ∧
        aesMp16 env (seed.key.toList ++ entropy.toList) = .ok seed' ∧
        s' = { s with
          keys := Function.update s.keys (sheKeyId p s.clientId p.prngSeedId)
            (some { seed with key := seed' })
          she := { s.she with
            prngState := (whAesMp16 env s.she.prngState (s.she.prngState.toList ++ entropy.toList)).1 } } := by
  simp only [hsmSheExtendSeed, bind_assoc, getShe_bind_run, check_bind_run, readKeyOr_bind_run,
    call_bind_run, addObject, orFail_writeKey_bind_run, aesMp16Into_bind_run, SheM.pure_run] at h
  split_ifs at h with h0
  swap
  · cases h
  rcases h1 : (whAesMp16 env s.she.prngState (s.she.prngState.toList ++ entropy.toList)).2
    with _ | ⟨⟩ <;> simp only [h1] at h
  · cases h
  rcases h2 : readResult env s.keys (sheKeyId p s.clientId p.prngSeedId) with _ | seed <;>
    simp only [h2] at h
  · cases h
  rcases h3 : aesMp16 env (seed.key.toList ++ entropy.toList) with _ | seed' <;> simp only [h3] at h
  · cases h
  rcases h4 : env.addFault (sheKeyId p s.clientId p.prngSeedId) with _ | _ <;>
    simp only [h4] at h
  · simp only [Prod.mk.injEq, Except.ok.injEq] at h
    obtain ⟨rfl, rfl⟩ := h
    exact ⟨h0, rfl, rfl, seed, seed', rfl, h3, rfl⟩
  · cases h

end WolfHsmShe
