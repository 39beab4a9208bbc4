import TokenAudit.Requirement.Context

/-!
# Findings about a domain description of ERC-5267
-/

namespace TokenAudit

/-- Which fields the bitmap of a domain must announce. -/
structure RequiredBits where
  /-- The name. -/
  name : Bool
  /-- The version. -/
  version : Bool
  /-- The chain id. -/
  chainId : Bool
  /-- The verifying contract. -/
  verifyingContract : Bool
  /-- The salt. -/
  salt : Bool
  /-- The extensions. -/
  extensions : Bool
  deriving Repr, BEq, DecidableEq

namespace RequiredBits

/-- Every field but the salt and the extensions. -/
def standard : RequiredBits :=
  ⟨true, true, true, true, false, false⟩

/-- The fields in the order of their bits, the lowest first. -/
def toList (bits : RequiredBits) : List Bool :=
  [bits.name, bits.version, bits.chainId, bits.verifyingContract, bits.salt, bits.extensions]

/-- The number whose binary digits are given, the lowest first. -/
def maskOf : List Bool → Nat
  | [] => 0
  | bit :: rest => (if bit then 1 else 0) + 2 * maskOf rest

/-- The bitmap that announces exactly these fields. -/
def mask (bits : RequiredBits) : Nat :=
  maskOf bits.toList

end RequiredBits

/-- Findings about the bitmap. -/
structure FieldsCheck where
  /-- Every required bit is set. -/
  valid : Bool
  /-- The bitmap, if it is written as a literal. -/
  value : Option Nat
  /-- The bits that must be set. -/
  required : RequiredBits
  deriving Repr, BEq, DecidableEq

/-- Findings about the name. -/
structure NameCheck where
  /-- The expression is acceptable. -/
  valid : Bool
  /-- The stored value cannot change. -/
  immutable : Bool
  /-- The value is not empty. -/
  nonEmpty : Bool
  deriving Repr, BEq, DecidableEq

/-- Findings about the version. -/
structure VersionCheck where
  /-- The expression is acceptable. -/
  valid : Bool
  /-- The stored value cannot change. -/
  immutable : Bool
  deriving Repr, BEq, DecidableEq

/-- Findings about the chain id. -/
structure ChainIdCheck where
  /-- The expression is acceptable. -/
  valid : Bool
  /-- The id is read from the block. -/
  usesBlock : Bool
  deriving Repr, BEq, DecidableEq

/-- Findings about the verifying contract. -/
structure VerifyingContractCheck where
  /-- The expression is acceptable. -/
  valid : Bool
  /-- The contract names itself. -/
  usesThis : Bool
  /-- No sign of a proxy was found. -/
  proxySafe : Bool
  deriving Repr, BEq, DecidableEq

/-- Findings about the salt. -/
structure SaltCheck where
  /-- The expression is acceptable. -/
  valid : Bool
  /-- The value is not zero. -/
  nonZero : Bool
  /-- The stored value cannot change. -/
  immutable : Bool
  deriving Repr, BEq, DecidableEq

/-- Findings about the extensions. -/
structure ExtensionsCheck where
  /-- The expression is acceptable. -/
  valid : Bool
  /-- The list is not empty. -/
  nonEmpty : Bool
  deriving Repr, BEq, DecidableEq

/-- What was found about a domain description. -/
structure DomainReport where
  /-- The mandated function is declared. -/
  functionExists : Bool
  /-- Every expression that it returns is acceptable. -/
  correctFields : Bool
  /-- The type hash is declared. -/
  typehash : Bool
  /-- The domain separator is used. -/
  domainSeparator : Bool
  /-- The bitmap. -/
  fields : FieldsCheck
  /-- The name. -/
  name : NameCheck
  /-- The version. -/
  version : VersionCheck
  /-- The chain id. -/
  chainId : ChainIdCheck
  /-- The verifying contract. -/
  verifyingContract : VerifyingContractCheck
  /-- The salt. -/
  salt : SaltCheck
  /-- The extensions. -/
  extensions : ExtensionsCheck
  /-- Advice. -/
  warnings : List String
  /-- Faults that need attention. -/
  criticalIssues : List String
  deriving Repr, BEq, DecidableEq

namespace DomainReport

/-- Nothing found yet. -/
def start : DomainReport where
  functionExists := false
  correctFields := false
  typehash := false
  domainSeparator := false
  fields := ⟨false, none, .standard⟩
  name := ⟨false, false, false⟩
  version := ⟨false, false⟩
  chainId := ⟨false, false⟩
  verifyingContract := ⟨false, false, false⟩
  salt := ⟨false, false, false⟩
  extensions := ⟨false, false⟩
  warnings := []
  criticalIssues := []

/-- The verdicts on a domain description. -/
def checklist (r : DomainReport) : Checklist :=
  [("eip712Domain_function_exists", r.functionExists),
   ("returns_correct_fields", r.correctFields), ("typehash_declared", r.typehash),
   ("domain_separator_usage", r.domainSeparator)]

/-- Whether all seven expressions are acceptable. -/
def allValid (r : DomainReport) : Bool :=
  r.fields.valid && r.name.valid && r.version.valid && r.chainId.valid &&
    r.verifyingContract.valid && r.salt.valid && r.extensions.valid

/-- The bits that must be set, as an object. -/
def requiredJson (bits : RequiredBits) : Json :=
  .obj [("name", .bool bits.name), ("version", .bool bits.version),
    ("chainId", .bool bits.chainId), ("verifyingContract", .bool bits.verifyingContract),
    ("salt", .bool bits.salt), ("extensions", .bool bits.extensions)]

/-- The report as an object: the verdicts, then the findings field by field. -/
def toJson (r : DomainReport) : Json :=
  .obj (r.checklist.map (fun (name, met) => (name, .bool met)) ++
    [("fields", .obj [("valid", .bool r.fields.valid),
       ("value", (r.fields.value.map Json.ofNat).getD .null),
       ("required_bits", requiredJson r.fields.required)]),
     ("name", .obj [("valid", .bool r.name.valid), ("immutable", .bool r.name.immutable),
       ("non_empty", .bool r.name.nonEmpty)]),
     ("version", .obj [("valid", .bool r.version.valid), ("immutable", .bool r.version.immutable)]),
     ("chainId", .obj [("valid", .bool r.chainId.valid),
       ("uses_block_chainid", .bool r.chainId.usesBlock)]),
     ("verifyingContract", .obj [("valid", .bool r.verifyingContract.valid),
       ("uses_address_this", .bool r.verifyingContract.usesThis),
       ("proxy_safe", .bool r.verifyingContract.proxySafe)]),
     ("salt", .obj [("valid", .bool r.salt.valid), ("non_zero", .bool r.salt.nonZero),
       ("immutable", .bool r.salt.immutable)]),
     ("extensions", .obj [("valid", .bool r.extensions.valid),
       ("non_empty", .bool r.extensions.nonEmpty)]),
     ("warnings", .arr (r.warnings.map .str)),
     ("critical_issues", .arr (r.criticalIssues.map .str))])

end DomainReport

end TokenAudit
