import Gatehouse.Cache.Memory
import Gatehouse.Cache.Redis

/-!
# Choosing a cache

The cache that the settings ask for, by the name of its provider.
-/

set_option autoImplicit false

namespace Gatehouse.Cache

inductive Provider
  | memory (cache : Memory)
  | redis (peer : Redis.Peer)

def Provider.open (settings : Config.CacheSettings) (contact : Redis.Contact) :
    Except Failure Provider :=
  match settings.provider with
  | "redis" => (Redis.connect settings.redis contact).map .redis
  | "memory" => .ok (.memory (.empty settings.memory.maxCapacity))
  | other => .error (.unknownCacheProvider other)

def Provider.tryOut (settings : Config.CacheSettings) (key value : String) (lifetime : Nat) :
    Provider → Except Failure (Option String)
  | .memory cache => .ok ((cache.set key value lifetime 0).get key 0)
  | .redis peer => do
    let (stored, peer) := Redis.set settings.redis key value lifetime peer
    stored
    (Redis.get settings.redis key peer).1

end Gatehouse.Cache
