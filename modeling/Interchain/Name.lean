import Interchain.Json.Codec
import Interchain.Text.Ascii

/-!
# Names

Contracts, workers, bridges and dexes are named by texts, and two names are the
same when their texts are equal.  A chain's name is compared without regard to
the case of ASCII letters, and its spelling is kept for display and for the
wire.
-/

namespace Interchain

/-- What a name can name, chains apart. -/
inductive NameKind where
  | contract
  | worker
  | bridge
  | dex
deriving DecidableEq, Repr

/-- A name of one kind of thing. -/
structure Name (kind : NameKind) where
  text : String
deriving DecidableEq, Repr

/-- Identifier of a deployed contract, as the configuration gives it. -/
abbrev ContractId := Name .contract

/-- Account key of a worker, as the executor knows it. -/
abbrev WorkerId := Name .worker

/-- Name of a registered bridge. -/
abbrev BridgeName := Name .bridge

/-- Name of a registered dex. -/
abbrev DexName := Name .dex

def Name.codec {kind : NameKind} : Codec (Name kind) :=
  .iso .string Name.text Name.mk

/-- Name of a chain. -/
structure ChainName where
  text : String
deriving DecidableEq, Repr

namespace ChainName

/-- The lower-case form, which is the same for all spellings of one name. -/
def normalized (n : ChainName) : String :=
  Ascii.lower n.text

/-- Whether two spellings name the same chain. -/
def same (a b : ChainName) : Bool :=
  Ascii.sameText a.text b.text

theorem same_iff {a b : ChainName} : a.same b = true ↔ a.normalized = b.normalized :=
  Ascii.sameText_iff

@[simp] theorem same_refl (a : ChainName) : a.same a = true :=
  Ascii.sameText_refl _

theorem same_comm (a b : ChainName) : a.same b = b.same a :=
  Ascii.sameText_comm _ _

theorem same_trans {a b c : ChainName} (h : a.same b = true) (k : b.same c = true) :
    a.same c = true := by
  rw [same_iff] at *
  exact h.trans k

def codec : Codec ChainName :=
  .iso .string ChainName.text ChainName.mk

end ChainName

end Interchain
