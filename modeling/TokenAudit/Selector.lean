import TokenAudit.Code.Signature
import TokenAudit.Json.Basic

/-!
# The selector catalog

Entry points that hand control to a recipient, and a search for their selectors in bytecode.
-/

namespace TokenAudit

open Text

/-- A known entry point. -/
structure SelectorEntry where
  /-- The selector as `0x` and eight digits. -/
  selector : String
  /-- The standard that defines the entry point. -/
  erc : String
  /-- The reduced signature. -/
  signature : String
  /-- The function that is called on the recipient. -/
  receiverHook : Option String
  /-- What the hook must return. -/
  magicValue : Option String
  deriving Repr, BEq, DecidableEq

namespace SelectorEntry

/-- The entry as an object. -/
def toJson (e : SelectorEntry) : Json :=
  .obj [("selector", .str e.selector), ("erc", .str e.erc), ("signature", .str e.signature),
    ("receiver_hook", .ofText? e.receiverHook), ("magic_value", .ofText? e.magicValue)]

end SelectorEntry

namespace Selector

/-- Every known entry point. -/
def catalog : List SelectorEntry :=
  [⟨"0xf242432a", "ERC-1155", "safeTransferFrom(address,address,uint256,uint256,bytes)",
     some "onERC1155Received", some "0xf23a6e61"⟩,
   ⟨"0x2eb2c2d6", "ERC-1155", "safeBatchTransferFrom(address,address,uint256[],uint256[],bytes)",
     some "onERC1155BatchReceived", some "0xbc197c81"⟩,
   ⟨"0xb88d4fde", "ERC-721", "safeTransferFrom(address,address,uint256,bytes)",
     some "onERC721Received", some "0x150b7a02"⟩,
   ⟨"0xbe45fd62", "ERC-223", "transfer(address,uint256,bytes)", some "tokenFallback", none⟩,
   ⟨"0x9bd9bbc6", "ERC-777", "send(address,uint256,bytes)", some "tokensReceived", none⟩,
   ⟨"0x62ad1b83", "ERC-777", "operatorSend(address,address,uint256,bytes,bytes)",
     some "tokensReceived", none⟩,
   ⟨"0x1296ee62", "ERC-1363", "transferAndCall(address,uint256)", some "onTransferReceived", none⟩,
   ⟨"0x4000aea0", "ERC-1363", "transferAndCall(address,uint256,bytes)",
     some "onTransferReceived", none⟩,
   ⟨"0xd8fbe994", "ERC-1363", "transferFromAndCall(address,address,uint256)",
     some "onTransferReceived", none⟩,
   ⟨"0xc1d34b89", "ERC-1363", "transferFromAndCall(address,address,uint256,bytes)",
     some "onTransferReceived", none⟩,
   ⟨"0x3177029f", "ERC-1363", "approveAndCall(address,uint256)", some "onApprovalReceived", none⟩,
   ⟨"0xcae9ca51", "ERC-1363", "approveAndCall(address,uint256,bytes)",
     some "onApprovalReceived", none⟩]

/-- The digits of a number: without its `0x`, in lower case. -/
def bareHex : List Char → List Char
  | '0' :: 'x' :: rest => rest.map lowerChar
  | '0' :: 'X' :: rest => rest.map lowerChar
  | text => text.map lowerChar

/-- The eight digits of an entry's selector. -/
def digits (e : SelectorEntry) : List Char :=
  bareHex e.selector.toList

/-- The entry with this selector; case and the leading `0x` do not matter. -/
def lookup? (selector : String) : Option SelectorEntry :=
  catalog.find? fun e => digits e == bareHex selector.toList

/-- The entry with the selector of this signature. -/
def lookupSignature? (signature : String) : Option SelectorEntry :=
  lookup? (Signature.selectorHex signature)

/-- The entries whose selector occurs in the written bytecode, at any digit. -/
def scan (bytecode : String) : List SelectorEntry :=
  let code := bareHex (trimChars bytecode.toList)
  if code.isEmpty then [] else catalog.filter fun e => hasInfix (digits e) code

end Selector

end TokenAudit
