import Launchpad.Address.Page

/-!
# Web addresses

`page?` reads the address of a page, on its own or as it is given on another page. The address may
then leave out what the two have in common.
-/

namespace Launchpad.Address

/-- What of an address is read: no controls and spaces at its ends, and no tabs and line ends at
all. -/
def readable (address : List Char) : List Char :=
  (Text.strip (fun c => c.toNat ≤ 0x20) address).filter fun c =>
    !(c == '\t' || c == '\n' || c == '\r')

def splitScheme? (address : List Char) : Option (List Char × List Char) :=
  let isPart := fun c : Char => c.isAlphanum || c == '+' || c == '-' || c == '.'
  let name := address.takeWhile isPart
  match address.dropWhile isPart with
  | ':' :: rest => if name.head?.any Char.isAlpha then some (name, rest) else none
  | _ => none

/-- The most characters of an address that can be sent. -/
def longest : Nat := 65534

/-- The page at an address that is given on a page, or on its own, if it can be asked for. Behind
the scheme of that page the host may be left out. -/
def page? (given : Option Page) (address : String) : Option Page :=
  let address := readable address.toList
  let page := match splitScheme? address with
    | none => given.bind (·.refer? address)
    | some (name, rest) =>
      (Scheme.ofName? name).bind fun scheme =>
        let hostless := (rest.takeWhile isSlash).length < 2
        match given.filter fun (p : Page) => p.scheme = scheme && hostless with
        | some p => p.refer? rest
        | none => Page.ofHost? scheme (rest.dropWhile isSlash)
  page.filter (·.written.length ≤ longest)

end Launchpad.Address
