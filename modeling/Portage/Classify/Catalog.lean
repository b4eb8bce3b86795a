import Portage.Api.Types
import Portage.Go.Text

/-! The built-in engine catalog. Order matters: the first match wins, so more
specific matchers come first. -/
namespace Portage

open Go

structure Engine where
  name : String
  cls : WorkloadClass
  imageMatchers : List String
  deriving DecidableEq, Repr

def catalog : List Engine := [
  ⟨"timescale", .sqlLogical, ["timescale/timescaledb", "timescaledb"]⟩,
  ⟨"cockroach", .sqlLogical, ["cockroachdb/cockroach", "cockroachdb"]⟩,
  ⟨"postgres", .sqlLogical, ["bitnami/postgresql", "cloudnative-pg", "crunchydata", "pgvector",
    "supabase/postgres", "enterprisedb", "postgis", "postgresql", "postgres"]⟩,
  ⟨"mariadb", .sqlLogical, ["bitnami/mariadb", "mariadb"]⟩,
  ⟨"mysql", .sqlLogical, ["bitnami/mysql", "percona/percona-server", "mysql/mysql-server", "mysql"]⟩,
  ⟨"mssql", .sqlLogical, ["mssql/server", "microsoft/mssql-server", "azure-sql-edge"]⟩,
  ⟨"clickhouse", .sqlLogical, ["clickhouse/clickhouse-server", "bitnami/clickhouse", "clickhouse"]⟩,
  ⟨"mongo", .kvLogical, ["bitnami/mongodb", "percona/percona-server-mongodb",
    "mongodb/mongodb-community-server", "mongo"]⟩,
  ⟨"redis", .kvLogical, ["bitnami/redis", "redis/redis-stack", "redis-stack", "redis"]⟩,
  ⟨"valkey", .kvLogical, ["valkey/valkey", "bitnami/valkey", "valkey"]⟩,
  ⟨"keydb", .kvLogical, ["eqalpha/keydb", "keydb"]⟩,
  ⟨"dragonfly", .kvLogical, ["dragonflydb/dragonfly", "dragonfly"]⟩,
  ⟨"elasticsearch", .searchFS, ["bitnami/elasticsearch", "elastic/elasticsearch", "elasticsearch"]⟩,
  ⟨"opensearch", .searchFS, ["opensearchproject/opensearch", "bitnami/opensearch", "opensearch"]⟩,
  ⟨"cassandra", .searchFS, ["bitnami/cassandra", "cassandra"]⟩,
  ⟨"scylla", .searchFS, ["scylladb/scylla", "scylla"]⟩,
  ⟨"neo4j", .searchFS, ["neo4j"]⟩,
  ⟨"influxdb", .searchFS, ["bitnami/influxdb", "influxdb"]⟩,
  ⟨"rabbitmq", .queueDurable, ["bitnami/rabbitmq", "rabbitmq"]⟩,
  ⟨"nats", .queueDurable, ["natsio/nats-server", "bitnami/nats", "nats"]⟩,
  ⟨"kafka", .queueDurable, ["bitnami/kafka", "confluentinc/cp-kafka", "strimzi", "kafka"]⟩,
  ⟨"minio", .objectStore, ["bitnami/minio", "minio/minio", "quay.io/minio/minio", "minio"]⟩,
  ⟨"etcd", .kvLogical, ["bitnami/etcd", "quay.io/coreos/etcd", "etcd"]⟩]

/-- The first engine with a matcher that is a substring of the image. -/
def matchImage (image : String) : Option Engine :=
  catalog.find? fun e => e.imageMatchers.any fun m => m ≠ "" ∧ contains (toLower image) (toLower m)

end Portage
