import ObservatoryWatch.Observatory.Image

/-!
What has been reported already.

Events and images are recognised by fingerprints. A set of fingerprints only grows.
-/

namespace ObservatoryWatch.Monitor

open Observatory

abbrev Fingerprint := List String

/-- Fingerprints, the latest first, each once. -/
structure Seen where
  fingerprints : List Fingerprint
  nodup : fingerprints.Nodup

namespace Seen

def empty : Seen := ⟨[], .nil⟩

def contains (seen : Seen) (fingerprint : Fingerprint) : Bool :=
  seen.fingerprints.contains fingerprint

def size (seen : Seen) : Nat := seen.fingerprints.length

/-- The set with a fingerprint added; none if it is there already. -/
def add? (seen : Seen) (fingerprint : Fingerprint) : Option Seen :=
  if known : fingerprint ∈ seen.fingerprints then none
  else some ⟨fingerprint :: seen.fingerprints, List.nodup_cons.mpr ⟨known, seen.nodup⟩⟩

/-- The set with a fingerprint in it. -/
def add (seen : Seen) (fingerprint : Fingerprint) : Seen := (seen.add? fingerprint).getD seen

def addEvent (seen : Seen) (event : Event) : Seen :=
  if event.changesNothing then seen else seen.add event.fingerprint

def addImage (seen : Seen) (image : Image) : Seen := seen.add image.fingerprint

end Seen

end ObservatoryWatch.Monitor
