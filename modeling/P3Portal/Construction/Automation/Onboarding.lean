import P3Portal.Foundation.Base64
import P3Portal.Foundation.TextFields
import P3Portal.Foundation.TextStream

namespace P3Portal.Automation
open Foundation Foundation.Text

def sudoersSentinel : String := "P3_SUDOERS_EOF"

def keysSentinel : String := "P3_KEYS_EOF"

structure InvalidPublicKey where
  message : String
deriving DecidableEq

/-- Absent and blank entries are left out; a key that could leave the heredoc is an error. -/
def sanitizeKey (out : List String) (raw : Option String) : Except InvalidPublicKey (List String) :=
  match raw with
  | none => .ok out
  | some raw =>
      let key := strip raw
      if key = "" then .ok out
      else if '\n' ∈ key.toList ∨ '\r' ∈ key.toList then .error ⟨"public key must be a single line"⟩
      else if contains keysSentinel key ∨ contains sudoersSentinel key then
        .error ⟨"public key contains reserved heredoc sentinel"⟩
      else if key.toList.any fun c => decide (c.toNat < 0x20) then
        .error ⟨"public key contains control characters"⟩
      else .ok (if key ∈ out then out else out ++ [key])

def sanitizeKeys (publicKeys : List (Option String)) : Except InvalidPublicKey (List String) :=
  publicKeys.foldlM sanitizeKey []

/-- The script up to the line that begins the heredoc of the keys, with the names written out. -/
def scriptHead : List String :=
  ["#!/bin/sh",
    "# P3 Portal – Ansible onboarding block (idempotent).",
    "# Creates the dedicated service user 'p3-ansible' with NOPASSWD sudo and the",
    "# managed SSH public keys. Safe to run multiple times.",
    "set -eu",
    "",
    "# 1. Service user (idempotent)",
    "getent passwd p3-ansible >/dev/null 2>&1 || useradd -m -s /bin/sh p3-ansible",
    "",
    "# 2. Passwordless sudo drop-in (validated)",
    "cat > /etc/sudoers.d/p3-ansible <<'P3_SUDOERS_EOF'",
    "p3-ansible ALL=(ALL) NOPASSWD:ALL",
    "P3_SUDOERS_EOF",
    "chmod 0440 /etc/sudoers.d/p3-ansible",
    "visudo -cf /etc/sudoers.d/p3-ansible",
    "",
    "# 3. authorized_keys = exactly the managed keys (set-overwrite)",
    "P3_HOME=$(getent passwd p3-ansible | cut -d: -f6)",
    "install -d -m 0700 \"$P3_HOME/.ssh\"",
    "chown p3-ansible: \"$P3_HOME/.ssh\"",
    "cat > \"$P3_HOME/.ssh/authorized_keys\" <<'P3_KEYS_EOF'"]

/-- The script from the delimiter of the keys on. -/
def scriptTail : List String :=
  ["P3_KEYS_EOF",
    "chmod 0600 \"$P3_HOME/.ssh/authorized_keys\"",
    "chown p3-ansible: \"$P3_HOME/.ssh/authorized_keys\""]

/-- The lines of a template, each with its newline. -/
def template (lines : List String) : String := String.join (lines.map (· ++ "\n"))

def renderOnboardingBlock (publicKeys : List (Option String)) : Except InvalidPublicKey String := do
  let keys ← sanitizeKeys publicKeys
  let keysBlock := "\n".intercalate keys
  let keysBlock := if keysBlock ≠ "" then keysBlock ++ "\n" else keysBlock
  return template scriptHead ++ keysBlock ++ template scriptTail

def renderCloudInitVendorData (publicKeys : List (Option String)) : Except InvalidPublicKey String := do
  let block ← renderOnboardingBlock publicKeys
  let b64 := String.ofList (Base64.encode (Utf8.encode block.toList))
  return template
    ["#cloud-config",
      "write_files:",
      "  - path: /var/lib/p3-onboard.sh",
      "    permissions: '0700'",
      "    encoding: b64",
      s!"    content: {b64}",
      "runcmd:",
      "  - [ /bin/sh, /var/lib/p3-onboard.sh ]"]

/-- The value of the field `content` of the vendor data. -/
def contentField (vendorData : String) : Option (List Char) :=
  (fedLines vendorData.toList).findSome? fun line =>
    if "    content: ".toList.isPrefixOf line then some (line.drop 13) else none

end P3Portal.Automation
