import Ecosystem.Artifacts.Store
import Ecosystem.Lib.JsonText
import Ecosystem.Lib.Utf8

/-!
# The text of the identity

`store-meta.json` is the canonical JSON of five members, in UTF-8.  With this text and its
reader the laws of `Primitives` hold, whatever stands in for SHA-256 and its keyed forms.
-/

namespace Ecosystem.Artifacts

open Ecosystem.Lib

def textJson (text : Text) : Json Empty := .str (String.ofList text)

/-- `{**payload, "hmac": ...}`, its members in order. -/
def documentJson (document : MetaDocument) : Json Empty :=
  .obj [("domain", textJson document.payload.domain), ("hmac", textJson document.hmac),
    ("keyId", textJson document.payload.keyId),
    ("storeId", textJson document.payload.storeId),
    ("version", .int document.payload.version)]

/-- `canonical_json(...).encode("utf-8")`. -/
def documentBytes (document : MetaDocument) : Bytes :=
  utf8 ((documentJson document).write noFloats)

def readDocument : Json Empty → Option MetaDocument
  | .obj [("domain", .str domain), ("hmac", .str hmac), ("keyId", .str keyId),
      ("storeId", .str storeId), ("version", .int version)] =>
    some ⟨⟨domain.toList, version, storeId.toList, keyId.toList⟩, hmac.toList⟩
  | _ => none

def readDocumentBytes (bytes : Bytes) : Option MetaDocument := do
  let text ← readUtf8 bytes
  match Json.read noFloats text.length text with
  | some (json, []) => readDocument json
  | _ => none

theorem readDocument_documentJson (document : MetaDocument) :
    readDocument (documentJson document) = some document := by
  simp only [documentJson, textJson, readDocument, String.toList_ofList]

theorem readDocumentBytes_documentBytes (document : MetaDocument) :
    readDocumentBytes (documentBytes document) = some document := by
  have hread := Json.read_write noFloats (documentJson document)
    ((documentJson document).write noFloats).length [] (Nat.le_refl _) Json.stops_nil
  rw [List.append_nil] at hread
  rw [readDocumentBytes, documentBytes, readUtf8_utf8, Option.bind_eq_bind, Option.bind_some,
    hread]
  exact readDocument_documentJson document

/-- The store with the text of its identity, under any digests. -/
def primitivesOf (sha256 : Bytes → Text) (sha256_hex : ∀ bytes, isHex 64 (sha256 bytes) = true)
    (metadataHmac : MetaPayload → Text) (proofHmac : ProofPayload → Text)
    (proofHmac_hex : ∀ payload, isHex 64 (proofHmac payload) = true) : Primitives where
  sha256 := sha256
  sha256_hex := sha256_hex
  metadataHmac := metadataHmac
  proofHmac := proofHmac
  proofHmac_hex := proofHmac_hex
  metaBytes := documentBytes
  parseMeta := readDocumentBytes
  parseMeta_metaBytes := readDocumentBytes_documentBytes

end Ecosystem.Artifacts
