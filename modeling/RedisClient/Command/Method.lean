import RedisClient.Command.Param
import RedisClient.Reply.Convert

/-!
# Command methods

The methods come in seven families. `Method.spec` is the table of them: the words that open the
command, the parameters in calling order, and the kind of value that the reply is read as.
-/

namespace RedisClient

inductive Family
  | strings | lists | sets | sortedSets | hashes | keys | connection
deriving DecidableEq, Repr

def Family.name : Family → String
  | strings => "strings"
  | lists => "lists"
  | sets => "sets"
  | sortedSets => "sorted_sets"
  | hashes => "hashes"
  | keys => "keys"
  | connection => "connection"

inductive Method
  | set | get | append | bitcount | bitcountRange | bitopAnd | bitopOr | bitopXor | bitopNot
  | decr | decrby | incr | incrby | incrbyfloat | getbit | getrange | getset | setbit | setex
  | setnx | setrange | mget | mset | msetnx | psetex | strlen
  | lpush | lpushx | rpush | rpushx | lpop | rpop | lindex | linsert | llen | lrange | lrem
  | lset | ltrim | rpoplpush | blpop | brpop | brpoplpush
  | sadd | scard | sdiff | sdiffstore | sinter | sinterstore | sunion | sunionstore | sismember
  | smembers | smove | spop | spopCount | srandmember | srem
  | zadd | zcard | zcount | zincrby | zinterstore | zunionstore | zlexcount | zrange
  | zrangebylex | zrangebyscore | zrank | zrem | zremrangebylex | zremrangebyrank
  | zremrangebyscore | zrevrange | zrevrangebylex | zrevrangebyscore | zrevrank | zscore
  | hdel | hexists | hget | hgetall | hincrby | hincrbyfloat | hkeys | hlen | hmget | hmset
  | hset | hsetnx | hstrlen | hvals
  | del | dump | exists | expire | keys | moveKey | persist | pexpire | pttl | randomkey | rename
  | renamenx | sort | ttl | keyType
  | auth | echo | ping
deriving DecidableEq, Repr

/-- What there is to know about a method. -/
structure Spec where
  family : Family
  /-- The method's name in its family. -/
  name : String
  /-- The words that open the command. -/
  opening : List String
  params : List Param
  shape : Shape

namespace Method

/-- The table of methods, one line for each method of the seven kinds of handle. -/
@[reducible] def spec : Method → Spec
  | .set => ⟨.strings, "set", ["SET"], [.key, .text], .text⟩
  | .get => ⟨.strings, "get", ["GET"], [.key], .optionalText⟩
  | .append => ⟨.strings, "append", ["APPEND"], [.key, .text], .int⟩
  | .bitcount => ⟨.strings, "bitcount", ["BITCOUNT"], [.key], .int⟩
  | .bitcountRange => ⟨.strings, "bitcount_range", ["BITCOUNT"], [.key, .int, .int], .int⟩
  | .bitopAnd => ⟨.strings, "bitop_and", ["BITOP", "AND"], [.key, .keys], .int⟩
  | .bitopOr => ⟨.strings, "bitop_or", ["BITOP", "OR"], [.key, .keys], .int⟩
  | .bitopXor => ⟨.strings, "bitop_xor", ["BITOP", "XOR"], [.key, .keys], .int⟩
  | .bitopNot => ⟨.strings, "bitop_not", ["BITOP", "NOT"], [.key, .key], .int⟩
  | .decr => ⟨.strings, "decr", ["DECR"], [.key], .int⟩
  | .decrby => ⟨.strings, "decrby", ["DECRBY"], [.key, .int], .int⟩
  | .incr => ⟨.strings, "incr", ["INCR"], [.key], .int⟩
  | .incrby => ⟨.strings, "incrby", ["INCRBY"], [.key, .int], .int⟩
  | .incrbyfloat => ⟨.strings, "incrbyfloat", ["INCRBYFLOAT"], [.key, .increment], .real⟩
  | .getbit => ⟨.strings, "getbit", ["GETBIT"], [.key, .nat], .int⟩
  | .getrange => ⟨.strings, "getrange", ["GETRANGE"], [.key, .int, .int], .text⟩
  | .getset => ⟨.strings, "getset", ["GETSET"], [.key, .text], .optionalText⟩
  | .setbit => ⟨.strings, "setbit", ["SETBIT"], [.key, .nat, .bit], .int⟩
  | .setex => ⟨.strings, "setex", ["SETEX"], [.key, .nat, .text], .text⟩
  | .setnx => ⟨.strings, "setnx", ["SETNX"], [.key, .text], .flag⟩
  | .setrange => ⟨.strings, "setrange", ["SETRANGE"], [.key, .nat, .text], .int⟩
  | .mget => ⟨.strings, "mget", ["MGET"], [.keys], .maybeTexts⟩
  | .mset => ⟨.strings, "mset", ["MSET"], [.keyPairs], .text⟩
  | .msetnx => ⟨.strings, "msetnx", ["MSETNX"], [.keyPairs], .flag⟩
  | .psetex => ⟨.strings, "psetex", ["PSETEX"], [.key, .nat, .text], .text⟩
  | .strlen => ⟨.strings, "strlen", ["STRLEN"], [.key], .int⟩
  | .lpush => ⟨.lists, "lpush", ["LPUSH"], [.key, .texts "value"], .int⟩
  | .lpushx => ⟨.lists, "lpushx", ["LPUSHX"], [.key, .texts "value"], .int⟩
  | .rpush => ⟨.lists, "rpush", ["RPUSH"], [.key, .texts "value"], .int⟩
  | .rpushx => ⟨.lists, "rpushx", ["RPUSHX"], [.key, .texts "value"], .int⟩
  | .lpop => ⟨.lists, "lpop", ["LPOP"], [.key], .optionalText⟩
  | .rpop => ⟨.lists, "rpop", ["RPOP"], [.key], .optionalText⟩
  | .lindex => ⟨.lists, "lindex", ["LINDEX"], [.key, .int], .optionalText⟩
  | .linsert => ⟨.lists, "linsert", ["LINSERT"], [.key, .side, .text, .text], .int⟩
  | .llen => ⟨.lists, "llen", ["LLEN"], [.key], .int⟩
  | .lrange => ⟨.lists, "lrange", ["LRANGE"], [.key, .int, .int], .texts⟩
  | .lrem => ⟨.lists, "lrem", ["LREM"], [.key, .int, .text], .int⟩
  | .lset => ⟨.lists, "lset", ["LSET"], [.key, .int, .text], .text⟩
  | .ltrim => ⟨.lists, "ltrim", ["LTRIM"], [.key, .int, .int], .text⟩
  | .rpoplpush => ⟨.lists, "rpoplpush", ["RPOPLPUSH"], [.key, .key], .optionalText⟩
  | .blpop => ⟨.lists, "blpop", ["BLPOP"], [.seconds, .keys], .optionalPair⟩
  | .brpop => ⟨.lists, "brpop", ["BRPOP"], [.seconds, .keys], .optionalPair⟩
  | .brpoplpush => ⟨.lists, "brpoplpush", ["BRPOPLPUSH"], [.seconds, .key, .key], .optionalText⟩
  | .sadd => ⟨.sets, "sadd", ["SADD"], [.key, .texts "member"], .int⟩
  | .scard => ⟨.sets, "scard", ["SCARD"], [.key], .int⟩
  | .sdiff => ⟨.sets, "sdiff", ["SDIFF"], [.keys], .set⟩
  | .sdiffstore => ⟨.sets, "sdiffstore", ["SDIFFSTORE"], [.key, .keys], .int⟩
  | .sinter => ⟨.sets, "sinter", ["SINTER"], [.keys], .set⟩
  | .sinterstore => ⟨.sets, "sinterstore", ["SINTERSTORE"], [.key, .keys], .int⟩
  | .sunion => ⟨.sets, "sunion", ["SUNION"], [.keys], .set⟩
  | .sunionstore => ⟨.sets, "sunionstore", ["SUNIONSTORE"], [.key, .keys], .int⟩
  | .sismember => ⟨.sets, "sismember", ["SISMEMBER"], [.key, .text], .flag⟩
  | .smembers => ⟨.sets, "smembers", ["SMEMBERS"], [.key], .set⟩
  | .smove => ⟨.sets, "smove", ["SMOVE"], [.key, .key, .text], .flag⟩
  | .spop => ⟨.sets, "spop", ["SPOP"], [.key], .optionalText⟩
  | .spopCount => ⟨.sets, "spop_count", ["SPOP"], [.key, .nat], .texts⟩
  | .srandmember => ⟨.sets, "srandmember", ["SRANDMEMBER"], [.key, .int], .texts⟩
  | .srem => ⟨.sets, "srem", ["SREM"], [.key, .texts "member"], .int⟩
  | .zadd => ⟨.sortedSets, "zadd", ["ZADD"], [.key, .memberScores], .int⟩
  | .zcard => ⟨.sortedSets, "zcard", ["ZCARD"], [.key], .int⟩
  | .zcount => ⟨.sortedSets, "zcount", ["ZCOUNT"], [.key, .score, .score], .int⟩
  | .zincrby => ⟨.sortedSets, "zincrby", ["ZINCRBY"], [.key, .increment, .text], .real⟩
  | .zinterstore => ⟨.sortedSets, "zinterstore", ["ZINTERSTORE"], [.key, .countedKeys], .int⟩
  | .zunionstore => ⟨.sortedSets, "zunionstore", ["ZUNIONSTORE"], [.key, .countedKeys], .int⟩
  | .zlexcount => ⟨.sortedSets, "zlexcount", ["ZLEXCOUNT"], [.key, .text, .text], .int⟩
  | .zrange => ⟨.sortedSets, "zrange", ["ZRANGE"], [.key, .int, .int], .texts⟩
  | .zrangebylex => ⟨.sortedSets, "zrangebylex", ["ZRANGEBYLEX"], [.key, .text, .text], .texts⟩
  | .zrangebyscore =>
    ⟨.sortedSets, "zrangebyscore", ["ZRANGEBYSCORE"], [.key, .score, .score], .texts⟩
  | .zrank => ⟨.sortedSets, "zrank", ["ZRANK"], [.key, .text], .optionalInt⟩
  | .zrem => ⟨.sortedSets, "zrem", ["ZREM"], [.key, .texts "member"], .int⟩
  | .zremrangebylex =>
    ⟨.sortedSets, "zremrangebylex", ["ZREMRANGEBYLEX"], [.key, .text, .text], .int⟩
  | .zremrangebyrank =>
    ⟨.sortedSets, "zremrangebyrank", ["ZREMRANGEBYRANK"], [.key, .int, .int], .int⟩
  | .zremrangebyscore =>
    ⟨.sortedSets, "zremrangebyscore", ["ZREMRANGEBYSCORE"], [.key, .score, .score], .int⟩
  | .zrevrange => ⟨.sortedSets, "zrevrange", ["ZREVRANGE"], [.key, .int, .int], .texts⟩
  | .zrevrangebylex =>
    ⟨.sortedSets, "zrevrangebylex", ["ZREVRANGEBYLEX"], [.key, .text, .text], .texts⟩
  | .zrevrangebyscore =>
    ⟨.sortedSets, "zrevrangebyscore", ["ZREVRANGEBYSCORE"], [.key, .score, .score], .texts⟩
  | .zrevrank => ⟨.sortedSets, "zrevrank", ["ZREVRANK"], [.key, .text], .optionalInt⟩
  | .zscore => ⟨.sortedSets, "zscore", ["ZSCORE"], [.key, .text], .optionalReal⟩
  | .hdel => ⟨.hashes, "hdel", ["HDEL"], [.key, .texts "field"], .int⟩
  | .hexists => ⟨.hashes, "hexists", ["HEXISTS"], [.key, .text], .flag⟩
  | .hget => ⟨.hashes, "hget", ["HGET"], [.key, .text], .optionalText⟩
  | .hgetall => ⟨.hashes, "hgetall", ["HGETALL"], [.key], .map⟩
  | .hincrby => ⟨.hashes, "hincrby", ["HINCRBY"], [.key, .text, .int], .int⟩
  | .hincrbyfloat => ⟨.hashes, "hincrbyfloat", ["HINCRBYFLOAT"], [.key, .text, .increment], .real⟩
  | .hkeys => ⟨.hashes, "hkeys", ["HKEYS"], [.key], .texts⟩
  | .hlen => ⟨.hashes, "hlen", ["HLEN"], [.key], .int⟩
  | .hmget => ⟨.hashes, "hmget", ["HMGET"], [.key, .texts "field"], .maybeTexts⟩
  | .hmset => ⟨.hashes, "hmset", ["HMSET"], [.key, .fieldPairs], .text⟩
  | .hset => ⟨.hashes, "hset", ["HSET"], [.key, .text, .text], .flag⟩
  | .hsetnx => ⟨.hashes, "hsetnx", ["HSETNX"], [.key, .text, .text], .flag⟩
  | .hstrlen => ⟨.hashes, "hstrlen", ["HSTRLEN"], [.key, .text], .int⟩
  | .hvals => ⟨.hashes, "hvals", ["HVALS"], [.key], .texts⟩
  | .del => ⟨.keys, "del", ["DEL"], [.keys], .int⟩
  | .dump => ⟨.keys, "dump", ["DUMP"], [.key], .optionalBytes⟩
  | .exists => ⟨.keys, "exists", ["EXISTS"], [.keys], .int⟩
  | .expire => ⟨.keys, "expire", ["EXPIRE"], [.key, .int], .flag⟩
  | .keys => ⟨.keys, "keys", ["KEYS"], [.text], .texts⟩
  | .moveKey => ⟨.keys, "move_key", ["MOVE"], [.key, .int], .flag⟩
  | .persist => ⟨.keys, "persist", ["PERSIST"], [.key], .flag⟩
  | .pexpire => ⟨.keys, "pexpire", ["PEXPIRE"], [.key, .int], .flag⟩
  | .pttl => ⟨.keys, "pttl", ["PTTL"], [.key], .int⟩
  | .randomkey => ⟨.keys, "randomkey", ["RANDOMKEY"], [], .optionalText⟩
  | .rename => ⟨.keys, "rename", ["RENAME"], [.key, .key], .text⟩
  | .renamenx => ⟨.keys, "renamenx", ["RENAMENX"], [.key, .key], .flag⟩
  | .sort => ⟨.keys, "sort", ["SORT"], [.key], .texts⟩
  | .ttl => ⟨.keys, "ttl", ["TTL"], [.key], .int⟩
  | .keyType => ⟨.keys, "key_type", ["TYPE"], [.key], .text⟩
  | .auth => ⟨.connection, "auth", ["AUTH"], [.password], .text⟩
  | .echo => ⟨.connection, "echo", ["ECHO"], [.text], .text⟩
  | .ping => ⟨.connection, "ping", ["PING"], [], .text⟩

def all : List Method := [
  .set, .get, .append, .bitcount, .bitcountRange, .bitopAnd, .bitopOr, .bitopXor, .bitopNot, .decr
  , .decrby, .incr, .incrby, .incrbyfloat, .getbit, .getrange, .getset, .setbit, .setex, .setnx
  , .setrange, .mget, .mset, .msetnx, .psetex, .strlen,
  .lpush, .lpushx, .rpush, .rpushx, .lpop, .rpop, .lindex, .linsert, .llen, .lrange, .lrem, .lset
  , .ltrim, .rpoplpush, .blpop, .brpop, .brpoplpush,
  .sadd, .scard, .sdiff, .sdiffstore, .sinter, .sinterstore, .sunion, .sunionstore, .sismember
  , .smembers, .smove, .spop, .spopCount, .srandmember, .srem,
  .zadd, .zcard, .zcount, .zincrby, .zinterstore, .zunionstore, .zlexcount, .zrange, .zrangebylex
  , .zrangebyscore, .zrank, .zrem, .zremrangebylex, .zremrangebyrank, .zremrangebyscore
  , .zrevrange, .zrevrangebylex, .zrevrangebyscore, .zrevrank, .zscore,
  .hdel, .hexists, .hget, .hgetall, .hincrby, .hincrbyfloat, .hkeys, .hlen, .hmget, .hmset, .hset
  , .hsetnx, .hstrlen, .hvals,
  .del, .dump, .exists, .expire, .keys, .moveKey, .persist, .pexpire, .pttl, .randomkey, .rename
  , .renamenx, .sort, .ttl, .keyType,
  .auth, .echo, .ping]

def find? (family name : String) : Option Method :=
  all.find? fun m => m.spec.family.name == family && m.spec.name == name

/-- No method is missing from the list of all. -/
theorem mem_all (m : Method) : m ∈ all := by
  cases m <;> decide

end Method

end RedisClient
