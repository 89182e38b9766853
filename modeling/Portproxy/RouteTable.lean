import Portproxy.Text

/-! The routing table as `default_router_ip` reads it from `/proc/net/route`. -/
namespace Portproxy
open HostOrder

/-- What the calls of `fgets` with a buffer of `size` bytes read from a file, one
after the other; `line` is what the next one has read so far, the latest byte
first. -/
def fgetsLines (size : Nat) : List UInt8 → List UInt8 → List (List UInt8)
  | line, [] => if line = [] then [] else [line.reverse]
  | line, c :: rest =>
    if c = 10 ∨ line.length + 2 = size then (c :: line).reverse :: fgetsLines size [] rest
    else fgetsLines size (c :: line) rest

/-- The two numbers of a line behind the interface name. The first one, `mask`
in the code, is the destination of the route, and the second one its gateway. -/
def routeNumbers (longBits : Nat) (buf : List UInt8) : Option (Nat × Nat) :=
  let c := (buf.takeWhile (· ≠ 0)).dropWhile fun byte => !isspace byte
  (scanHex longBits (c.dropWhile isspace)).bind fun mask =>
    (scanHex longBits mask.2).map fun addr => (mask.1, addr.1)

/-- `default_router_ip`; `route` is what the file holds, if it can be opened. -/
def defaultRouterIp (host : Host) (longBits : Nat) (route : Option (List UInt8)) : InAddr :=
  match route with
  | none => {}
  | some file =>
    let found := ((fgetsLines 256 [] file).drop 1).findSome? fun buf =>
      (routeNumbers longBits buf).bind fun numbers => if numbers.1 = 0 then some numbers.2 else none
    (found.map fun addr => .ofBytes (host.order.store 4 (addr % 2 ^ 32))).getD {}

end Portproxy
