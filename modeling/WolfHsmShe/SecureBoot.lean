import WolfHsmShe.AesMp

/-! # The handlers a client may call before secure boot: `SET_UID`, `SB_*`, `GET_STATUS` -/

namespace WolfHsmShe

variable (p : Platform) (env : Env)

def hsmSheSetUid (uid : Buf 15) : SheM Resp := do
  let she ← getShe
  check she.uidSet (.erc .sequenceError)
  modifyShe fun she => { she with uid := uid, uidSet := true }
  pure .setUid

theorem hsmSheSetUid_run (uid : Buf 15) (s : Server) :
    hsmSheSetUid uid s =
      if s.she.uidSet then (.error (.erc .sequenceError), s)
      else (.ok .setUid, { s with she := { s.she with uid := uid, uidSet := true } }) := by
  cases h : s.she.uidSet <;> simp [hsmSheSetUid, SheM.bind_run, h]

def hsmSheSecureBootInit (sz : BitVec 32) : SheM Resp := do
  let she ← getShe
  check (she.sbState ≠ .init) (.erc .sequenceError)
  modifyShe fun she => { she with blSize := sz }
  match ← readKey p env p.bootMacKeyId with
  | .error _ =>
    modifyShe fun she => { she with sbState := .success, cmacKeyFound := false }
    fail (.erc .noSecureBoot)
  | .ok macKey =>
    modifyShe fun she => { she with cmacKeyFound := true }
    cmacStart env macKey.key
    cmacFeed env (List.replicate 12 0)
    cmacFeed env (store32 p.endian sz)
    modifyShe fun she => { she with sbState := .update }
    pure .secureBootInit

theorem hsmSheSecureBootInit_run (sz : BitVec 32) (s : Server) :
    hsmSheSecureBootInit p env sz s =
      if s.she.sbState ≠ .init then (.error (.erc .sequenceError), s) else
      match readResult env s.keys (sheKeyId p s.clientId p.bootMacKeyId) with
      | .error _ => (.error (.erc .noSecureBoot),
          { s with she := { s.she with blSize := sz, sbState := .success, cmacKeyFound := false } })
      | .ok macKey =>
        match env.cmacInit macKey.key with
        | .error e => (.error e, { s with she := { s.she with blSize := sz, cmacKeyFound := true } })
        | .ok () =>
          match env.cmacUpdate macKey.key [] (List.replicate 12 0) with
          | .error e => (.error e,
              { s with
                she := { s.she with blSize := sz, cmacKeyFound := true, sheCmac := ⟨macKey.key, []⟩ } })
          | .ok () =>
            match env.cmacUpdate macKey.key (List.replicate 12 0) (store32 p.endian sz) with
            | .error e => (.error e,
                { s with
                  she := { s.she with blSize := sz, cmacKeyFound := true,
                                      sheCmac := ⟨macKey.key, List.replicate 12 0⟩ } })
            | .ok () => (.ok .secureBootInit,
                { s with
                  she := { s.she with blSize := sz, cmacKeyFound := true, sbState := .update,
                                      sheCmac := ⟨macKey.key, List.replicate 12 0 ++ store32 p.endian sz⟩ } }) := by
  simp only [hsmSheSecureBootInit, cmacStart, cmacFeed, bind_assoc, getShe_bind_run,
    check_bind_run, modifyShe_bind_run, readKey_bind_run]
  split_ifs
  · rfl
  · rcases readResult env s.keys (sheKeyId p s.clientId p.bootMacKeyId) with _ | macKey
    · rfl
    · rcases h₁ : env.cmacInit macKey.key with _ | ⟨⟩ <;>
      rcases h₂ : env.cmacUpdate macKey.key [] (List.replicate 12 0) with _ | ⟨⟩ <;>
      rcases h₃ : env.cmacUpdate macKey.key (List.replicate 12 0) (store32 p.endian sz) with _ | ⟨⟩ <;>
      simp only [h₁, h₂, h₃, call_bind_run, modifyShe_bind_run, getShe_bind_run, SheM.pure_run,
        List.nil_append]

theorem hsmSheSecureBootInit_cases {sz : BitVec 32} {s s' : Server} {res : Except Err Resp}
    (h : hsmSheSecureBootInit p env sz s = (res, s')) :
    (s.she.sbState ≠ .init ∧ res = .error (.erc .sequenceError) ∧ s' = s) ∨
    (s.she.sbState = .init ∧
      (∃ e, readResult env s.keys (sheKeyId p s.clientId p.bootMacKeyId) = .error e) ∧
      res = .error (.erc .noSecureBoot) ∧
      s' = { s with she := { s.she with blSize := sz, sbState := .success, cmacKeyFound := false } }) ∨
    (s.she.sbState = .init ∧ ∃ e ctx, res = .error e ∧
      s' = { s with she := { s.she with blSize := sz, cmacKeyFound := true, sheCmac := ctx } }) ∨
    (s.she.sbState = .init ∧
      ∃ macKey, readResult env s.keys (sheKeyId p s.clientId p.bootMacKeyId) = .ok macKey ∧
        res = .ok .secureBootInit ∧
        s' = { s with
          she := { s.she with
            blSize := sz, cmacKeyFound := true, sbState := .update,
            sheCmac := ⟨macKey.key, List.replicate 12 0 ++ store32 p.endian sz⟩ } }) := by
  rw [hsmSheSecureBootInit_run] at h
  split_ifs at h with hi
  · cases h
    exact .inl ⟨hi, rfl, rfl⟩
  simp only [not_not] at hi
  rcases hr : readResult env s.keys (sheKeyId p s.clientId p.bootMacKeyId) with e | macKey <;>
    simp only [hr] at h
  · cases h
    exact .inr (.inl ⟨hi, ⟨e, rfl⟩, rfl, rfl⟩)
  repeat' split at h
  all_goals cases h
  iterate 3 exact .inr (.inr (.inl ⟨hi, _, _, rfl, rfl⟩))
  exact .inr (.inr (.inr ⟨hi, macKey, rfl, rfl, rfl⟩))

/-- The handler `hsmSheSecureBootUpdate`; `blSizeReceived += sz` wraps at `2 ^ 32`. -/
def hsmSheSecureBootUpdate (sz : BitVec 32) (data : List Byte) : SheM Resp := do
  let she ← getShe
  check (she.sbState ≠ .update) (.erc .sequenceError)
  let received := she.blSizeReceived + sz
  modifyShe fun she => { she with blSizeReceived := received }
  check (she.blSize < received) (.erc .sequenceError)
  cmacFeed env (readIn data sz.toNat).toList
  doIf (received = she.blSize) (modifyShe fun she => { she with sbState := .finish })
  pure .secureBootUpdate

theorem hsmSheSecureBootUpdate_run (sz : BitVec 32) (data : List Byte) (s : Server) :
    hsmSheSecureBootUpdate env sz data s =
      if s.she.sbState ≠ .update then (.error (.erc .sequenceError), s)
      else if s.she.blSize < s.she.blSizeReceived + sz then
        (.error (.erc .sequenceError),
          { s with she := { s.she with blSizeReceived := s.she.blSizeReceived + sz } })
      else
        match env.cmacUpdate s.she.sheCmac.key s.she.sheCmac.fed (readIn data sz.toNat).toList with
        | .error e =>
          (.error e, { s with she := { s.she with blSizeReceived := s.she.blSizeReceived + sz } })
        | .ok () => (.ok .secureBootUpdate, { s with she := { s.she with
            blSizeReceived := s.she.blSizeReceived + sz,
            sheCmac := ⟨s.she.sheCmac.key, s.she.sheCmac.fed ++ (readIn data sz.toNat).toList⟩,
            sbState := if s.she.blSizeReceived + sz = s.she.blSize then .finish else .update } }) := by
  simp only [hsmSheSecureBootUpdate, cmacFeed, bind_assoc, getShe_bind_run, check_bind_run,
    modifyShe_bind_run, call_bind_run, doIf_bind_run, pure_bind_run]
  split_ifs <;> try rfl
  all_goals split <;> simp_all

theorem hsmSheSecureBootUpdate_cases {sz : BitVec 32} {data : List Byte} {s s' : Server}
    {res : Except Err Resp} (h : hsmSheSecureBootUpdate env sz data s = (res, s')) :
    (s.she.sbState ≠ .update ∧ res = .error (.erc .sequenceError) ∧ s' = s) ∨
    (s.she.sbState = .update ∧ ∃ e, res = .error e ∧
      (s.she.blSize < s.she.blSizeReceived + sz ∧ e = .erc .sequenceError ∨
        ¬ s.she.blSize < s.she.blSizeReceived + sz ∧
          env.cmacUpdate s.she.sheCmac.key s.she.sheCmac.fed (readIn data sz.toNat).toList =
            .error e) ∧
      s' = { s with she := { s.she with blSizeReceived := s.she.blSizeReceived + sz } }) ∨
    (s.she.sbState = .update ∧ ¬ s.she.blSize < s.she.blSizeReceived + sz ∧
      res = .ok .secureBootUpdate ∧
      s' = { s with she := { s.she with
        blSizeReceived := s.she.blSizeReceived + sz,
        sheCmac := ⟨s.she.sheCmac.key, s.she.sheCmac.fed ++ (readIn data sz.toNat).toList⟩,
        sbState := if s.she.blSizeReceived + sz = s.she.blSize then .finish else .update } }) := by
  rw [hsmSheSecureBootUpdate_run] at h
  split at h
  · cases h
    exact .inl ⟨‹_›, rfl, rfl⟩
  rename_i hi
  split at h
  · cases h
    exact .inr (.inl ⟨not_not.1 hi, _, rfl, .inl ⟨‹_›, rfl⟩, rfl⟩)
  rename_i hl
  split at h <;> cases h
  · exact .inr (.inl ⟨not_not.1 hi, _, rfl, .inr ⟨hl, ‹_›⟩, rfl⟩)
  · exact .inr (.inr ⟨not_not.1 hi, hl, rfl, rfl⟩)

def hsmSheSecureBootFinish : SheM Resp := do
  let she ← getShe
  check (she.sbState ≠ .finish) (.erc .sequenceError)
  let digest ← cmacFinal env
  match ← readKey p env p.bootMac with
  | .error _ => fail (.erc .keyNotAvailable)
  | .ok mac =>
    if digest = mac.key then
      modifyShe fun she => { she with sbState := .success }
      pure .secureBootFinish
    else
      modifyShe fun she => { she with sbState := .failure }
      fail (.erc .generalError)

theorem hsmSheSecureBootFinish_run (s : Server) :
    hsmSheSecureBootFinish p env s =
      if s.she.sbState ≠ .finish then (.error (.erc .sequenceError), s) else
      match env.cmac s.she.sheCmac.key s.she.sheCmac.fed with
      | .error e => (.error e, s)
      | .ok digest =>
        match readResult env s.keys (sheKeyId p s.clientId p.bootMac) with
        | .error _ => (.error (.erc .keyNotAvailable), s)
        | .ok mac =>
          if digest = mac.key then
            (.ok .secureBootFinish, { s with she := { s.she with sbState := .success } })
          else (.error (.erc .generalError), { s with she := { s.she with sbState := .failure } }) := by
  simp only [hsmSheSecureBootFinish, cmacFinal, bind_assoc, getShe_bind_run, check_bind_run,
    call_bind_run, readKey_bind_run]
  split_ifs
  · rfl
  · rcases env.cmac s.she.sheCmac.key s.she.sheCmac.fed with _ | digest
    · rfl
    · rcases readResult env s.keys (sheKeyId p s.clientId p.bootMac) with _ | mac
      · rfl
      · dsimp only
        split_ifs <;> rfl

theorem hsmSheSecureBootFinish_cases {s s' : Server} {res : Except Err Resp}
    (h : hsmSheSecureBootFinish p env s = (res, s')) :
    (s.she.sbState ≠ .finish ∧ res = .error (.erc .sequenceError) ∧ s' = s) ∨
    (s.she.sbState = .finish ∧ (∃ e, res = .error e) ∧ s' = s) ∨
    (s.she.sbState = .finish ∧
      (∃ mac, readResult env s.keys (sheKeyId p s.clientId p.bootMac) = .ok mac ∧
        env.cmac s.she.sheCmac.key s.she.sheCmac.fed = .ok mac.key) ∧
      res = .ok .secureBootFinish ∧ s' = { s with she := { s.she with sbState := .success } }) ∨
    (s.she.sbState = .finish ∧ res = .error (.erc .generalError) ∧
      s' = { s with she := { s.she with sbState := .failure } }) := by
  rw [hsmSheSecureBootFinish_run] at h
  split_ifs at h with hi
  · cases h
    exact .inl ⟨hi, rfl, rfl⟩
  rcases hc : env.cmac s.she.sheCmac.key s.she.sheCmac.fed with e | digest <;> simp only [hc] at h
  · cases h
    exact .inr (.inl ⟨not_not.1 hi, ⟨e, rfl⟩, rfl⟩)
  rcases hr : readResult env s.keys (sheKeyId p s.clientId p.bootMac) with e | mac <;>
    simp only [hr] at h
  · cases h
    exact .inr (.inl ⟨not_not.1 hi, ⟨_, rfl⟩, rfl⟩)
  split_ifs at h with hd <;> cases h
  · exact .inr (.inr (.inl ⟨not_not.1 hi, ⟨mac, rfl, hd ▸ rfl⟩, rfl, rfl⟩))
  · exact .inr (.inr (.inr ⟨not_not.1 hi, rfl, rfl⟩))

/-- The SREG byte `hsmSheGetStatus` builds. -/
def sreg (she : She) : Byte :=
  (if she.cmacKeyFound then p.sregSecureBoot else 0) |||
  (if she.sbState = .success ∨ she.sbState = .failure then p.sregBootFinished else 0) |||
  (if she.sbState = .success then p.sregBootOk else 0) |||
  (if she.rndInited then p.sregRndInit else 0)

def hsmSheGetStatus : SheM Resp := do
  let she ← getShe
  pure (.getStatus (sreg p she))

end WolfHsmShe
