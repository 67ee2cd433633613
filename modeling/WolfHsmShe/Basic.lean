import Mathlib.Data.Vector.Defs

/-!
# Bytes, return codes and the collaborators of `wh_server_she.c`

The key store, wolfCrypt and the header constants are parameters.
-/

namespace WolfHsmShe

/-! ## Bytes and host words -/

abbrev Byte := BitVec 8

/-- A fixed-size byte array of the source, such as `uint8_t uid[WOLFHSM_SHE_UID_SZ]`. -/
abbrev Buf (n : Nat) := Mathlib.Vector Byte n

/-- A block: `AES_BLOCK_SIZE` and `WOLFHSM_SHE_KEY_SZ` bytes. -/
abbrev Block := Buf 16

def zeroBlock : Block := Mathlib.Vector.replicate 16 0

/-- The XOR of two blocks, byte by byte (`out[j] ^= a[j]`). -/
def xorBlock (a b : Block) : Block := Mathlib.Vector.map₂ (· ^^^ ·) a b

/-- The `n` bytes a handler reads at a pointer into the packet, zeros past the request. -/
def readIn (data : List Byte) (n : Nat) : Buf n :=
  ⟨(data ++ List.replicate n 0).take n, by simp⟩

def slice {n : Nat} (v : Buf n) (i k : Nat) : Buf k := readIn (v.toList.drop i) k

inductive Endian
  | little
  | big
  deriving DecidableEq, Repr

/-- The `uint32_t` a host reads from four bytes of memory, as `*(uint32_t*)p` does. -/
def load32 : Endian → Byte → Byte → Byte → Byte → BitVec 32
  | .big, b0, b1, b2, b3 => b0 ++ b1 ++ b2 ++ b3
  | .little, b0, b1, b2, b3 => b3 ++ b2 ++ b1 ++ b0

/-- The four bytes of memory that hold a host `uint32_t`, lowest address first. -/
def store32 : Endian → BitVec 32 → List Byte
  | .big, w => [w.extractLsb' 24 8, w.extractLsb' 16 8, w.extractLsb' 8 8, w.extractLsb' 0 8]
  | .little, w => [w.extractLsb' 0 8, w.extractLsb' 8 8, w.extractLsb' 16 8, w.extractLsb' 24 8]

@[simp] theorem store32_length (e : Endian) (w : BitVec 32) : (store32 e w).length = 4 := by
  cases e <;> rfl

/-- Both `wh_Utils_ntohl` and `wh_Utils_htonl`: a byte swap on a little-endian host. -/
def ntohl : Endian → BitVec 32 → BitVec 32
  | .big, w => w
  | .little, w => w.extractLsb' 0 8 ++ w.extractLsb' 8 8 ++ w.extractLsb' 16 8 ++ w.extractLsb' 24 8

/-! ## Return codes -/

/-- The SHE error codes `WH_SHE_ERC_*`, `NO_ERROR` apart. -/
inductive Erc
  | sequenceError
  | keyNotAvailable
  | keyInvalid
  | keyEmpty
  | noSecureBoot
  | writeProtected
  | keyUpdateError
  | rngSeed
  | noDebugging
  | busy
  | memoryFailure
  | generalError
  deriving DecidableEq, Repr

/-- A nonzero `ret`: a `WH_SHE_ERC_*`, `WH_ERROR_NOTFOUND`, `WH_ERROR_BADARGS` or another code. -/
inductive Err
  | erc (e : Erc)
  | notFound
  | badArgs
  | code (n : Int)
  deriving DecidableEq, Repr

/-! ## Header constants and the key store -/

/-- What the source takes from its headers and host: byte order, key type, slots and bits. -/
structure Platform where
  endian : Endian
  keyTypeShe : Nat
  secretKeyId : Fin 16
  bootMacKeyId : Fin 16
  bootMac : Fin 16
  ramKeyId : Fin 16
  prngSeedId : Fin 16
  slots_nodup : [secretKeyId, bootMacKeyId, bootMac, ramKeyId, prngSeedId].Nodup
  flagWriteProtect : BitVec 32
  flagWildcard : BitVec 32
  sregSecureBoot : Byte
  sregBootFinished : Byte
  sregBootOk : Byte
  sregRndInit : Byte

/-- `MAKE_WOLFHSM_KEYID(type, client, id)`, which the source uses but does not define, as an
injective triple: distinct (type, client, slot) triples name distinct objects. -/
structure KeyId where
  type : Nat
  user : Nat
  id : Nat
  deriving DecidableEq, Repr

/-- The id `MAKE_WOLFHSM_KEYID(WOLFHSM_KEYTYPE_SHE, server->comm->client_id, slot)`. -/
def sheKeyId (p : Platform) (client slot : Nat) : KeyId := ⟨p.keyTypeShe, client, slot⟩

/-- A key object as the SHE handlers see it: its `whSheMetadata` label and its key. -/
structure KeyObj where
  flags : BitVec 32
  count : BitVec 32
  key : Block
  deriving DecidableEq

/-- Modelled from the spec: the key-store facade over NVM and the RAM key cache. -/
abbrev KeyStore := KeyId → Option KeyObj

/-! ## The backend -/

/-- The calls into wolfCrypt (AES, its modes, `wc_InitCmac_ex`, `wc_CmacUpdate`, the CMAC and
`wc_AesCmacVerify_ex`) and the faults of `hsmReadKey`, `wh_Nvm_AddObject` and `hsmCacheKey`. -/
structure Env where
  aesSetKey : Block → Except Err Unit
  aesEncrypt : Block → Block → Except Err Block
  cbcEncrypt : Block → Block → (n : Nat) → Buf n → Except Err (Buf n)
  cbcDecrypt : Block → Block → (n : Nat) → Buf n → Except Err (Buf n)
  ecbEncrypt : Block → (n : Nat) → Buf n → Except Err (Buf n)
  ecbDecrypt : Block → (n : Nat) → Buf n → Except Err (Buf n)
  cmacInit : Block → Except Err Unit
  cmacUpdate : Block → List Byte → List Byte → Except Err Unit
  cmac : Block → List Byte → Except Err Block
  cmacVerify : Block → List Byte → List Byte → Except Err Unit
  readFault : KeyId → Option Err
  addFault : KeyId → Option Err
  cacheFault : KeyId → Option Err

end WolfHsmShe
