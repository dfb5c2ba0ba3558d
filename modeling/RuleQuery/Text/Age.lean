import RuleQuery.Text.Runs

namespace RuleQuery.Text

/-- Where each run of code points starts, and its version after the letter `V`; runs without a
version are not assigned. -/
def ageText : String := "
  0V1.1 1f6V3.0 1faV1.1 218V3.0 220V3.2 221V4.0 222V3.0 234V4.0 237V4.1 242V5.0 250V1.1 2a9V3.0
  2aeV4.0 2b0V1.1 2dfV3.0 2e0V1.1 2eaV3.0 2efV4.0 300V1.1 346V3.0 34fV3.2 350V4.0 358V4.1 35dV4.0
  360V1.1 362V3.0 363V3.2 370V5.1 374V1.1 376V5.1 378V 37aV1.1 37bV5.0 37eV1.1 37fV7.0 380V
  384V1.1 38bV 38cV1.1 38dV 38eV1.1 3a2V 3a3V1.1 3cfV5.1 3d0V1.1 3d7V3.0 3d8V3.2 3daV1.1 3dbV3.0
  3dcV1.1 3ddV3.0 3deV1.1 3dfV3.0 3e0V1.1 3e1V3.0 3e2V1.1 3f4V3.1 3f6V3.2 3f7V4.0 3fcV4.1 400V3.0
  401V1.1 40dV3.0 40eV1.1 450V3.0 451V1.1 45dV3.0 45eV1.1 487V5.1 488V3.0 48aV3.2 48cV3.0 490V1.1
  4c5V3.2 4c7V1.1 4c9V3.2 4cbV1.1 4cdV3.2 4cfV5.0 4d0V1.1 4ecV3.0 4eeV1.1 4f6V4.1 4f8V1.1 4faV5.0
  500V3.2 510V5.0 514V5.1 524V5.2 526V6.0 528V7.0 530V 531V1.1 557V 559V1.1 560V11.0 561V1.1
  588V11.0 589V1.1 58aV3.0 58bV 58dV7.0 58fV6.1 590V 591V2.0 5a2V4.1 5a3V2.0 5b0V1.1 5baV5.0
  5bbV1.1 5c4V2.0 5c5V4.1 5c8V 5d0V1.1 5ebV 5efV11.0 5f0V1.1 5f5V 600V4.0 604V6.1 605V7.0 606V5.1
  60bV4.1 60cV1.1 60dV4.0 616V5.1 61bV1.1 61cV6.3 61dV14.0 61eV4.1 61fV1.1 620V6.0 621V1.1 63bV5.1
  640V1.1 653V3.0 656V4.0 659V4.1 65fV6.0 660V1.1 66eV3.2 670V1.1 6b8V3.0 6baV1.1 6bfV3.0 6c0V1.1
  6cfV3.0 6d0V1.1 6eeV4.0 6f0V1.1 6faV3.0 6ffV4.0 700V3.0 70eV 70fV3.0 72dV4.0 730V3.0 74bV
  74dV4.0 750V4.1 76eV5.1 780V3.0 7b1V3.2 7b2V 7c0V5.0 7fbV 7fdV11.0 800V5.2 82eV 830V5.2 83fV
  840V6.0 85cV 85eV6.0 85fV 860V10.0 86bV 870V14.0 88fV 890V14.0 892V 897V16.0 898V14.0 8a0V6.1
  8a1V7.0 8a2V6.1 8adV7.0 8b3V8.0 8b5V14.0 8b6V9.0 8beV13.0 8c8V14.0 8d3V11.0 8d4V9.0 8e3V8.0
  8e4V6.1 8ffV7.0 900V5.2 901V1.1 904V4.0 905V1.1 93aV6.0 93cV1.1 94eV5.2 94fV6.0 950V1.1 955V5.2
  956V6.0 958V1.1 971V5.1 973V6.0 978V7.0 979V5.2 97bV5.0 97dV4.1 97eV5.0 980V7.0 981V1.1 984V
  985V1.1 98dV 98fV1.1 991V 993V1.1 9a9V 9aaV1.1 9b1V 9b2V1.1 9b3V 9b6V1.1 9baV 9bcV1.1 9bdV4.0
  9beV1.1 9c5V 9c7V1.1 9c9V 9cbV1.1 9ceV4.1 9cfV 9d7V1.1 9d8V 9dcV1.1 9deV 9dfV1.1 9e4V 9e6V1.1
  9fbV5.2 9fcV10.0 9feV11.0 9ffV a01V4.0 a02V1.1 a03V4.0 a04V a05V1.1 a0bV a0fV1.1 a11V a13V1.1
  a29V a2aV1.1 a31V a32V1.1 a34V a35V1.1 a37V a38V1.1 a3aV a3cV1.1 a3dV a3eV1.1 a43V a47V1.1 a49V
  a4bV1.1 a4eV a51V5.1 a52V a59V1.1 a5dV a5eV1.1 a5fV a66V1.1 a75V5.1 a76V11.0 a77V a81V1.1 a84V
  a85V1.1 a8cV4.0 a8dV1.1 a8eV a8fV1.1 a92V a93V1.1 aa9V aaaV1.1 ab1V ab2V1.1 ab4V ab5V1.1 abaV
  abcV1.1 ac6V ac7V1.1 acaV acbV1.1 aceV ad0V1.1 ad1V ae0V1.1 ae1V4.0 ae4V ae6V1.1 af0V6.1 af1V4.0
  af2V af9V8.0 afaV10.0 b00V b01V1.1 b04V b05V1.1 b0dV b0fV1.1 b11V b13V1.1 b29V b2aV1.1 b31V
  b32V1.1 b34V b35V4.0 b36V1.1 b3aV b3cV1.1 b44V5.1 b45V b47V1.1 b49V b4bV1.1 b4eV b55V13.0
  b56V1.1 b58V b5cV1.1 b5eV b5fV1.1 b62V5.1 b64V b66V1.1 b71V4.0 b72V6.0 b78V b82V1.1 b84V b85V1.1
  b8bV b8eV1.1 b91V b92V1.1 b96V b99V1.1 b9bV b9cV1.1 b9dV b9eV1.1 ba0V ba3V1.1 ba5V ba8V1.1 babV
  baeV1.1 bb6V4.1 bb7V1.1 bbaV bbeV1.1 bc3V bc6V1.1 bc9V bcaV1.1 bceV bd0V5.1 bd1V bd7V1.1 bd8V
  be6V4.1 be7V1.1 bf3V4.0 bfbV c00V7.0 c01V1.1 c04V11.0 c05V1.1 c0dV c0eV1.1 c11V c12V1.1 c29V
  c2aV1.1 c34V7.0 c35V1.1 c3aV c3cV14.0 c3dV5.1 c3eV1.1 c45V c46V1.1 c49V c4aV1.1 c4eV c55V1.1
  c57V c58V5.1 c5aV8.0 c5bV c5dV14.0 c5eV c60V1.1 c62V5.1 c64V c66V1.1 c70V c77V12.0 c78V5.1
  c80V9.0 c81V7.0 c82V1.1 c84V11.0 c85V1.1 c8dV c8eV1.1 c91V c92V1.1 ca9V caaV1.1 cb4V cb5V1.1
  cbaV cbcV4.0 cbeV1.1 cc5V cc6V1.1 cc9V ccaV1.1 cceV cd5V1.1 cd7V cddV14.0 cdeV1.1 cdfV ce0V1.1
  ce2V5.0 ce4V ce6V1.1 cf0V cf1V5.0 cf3V15.0 cf4V d00V10.0 d01V7.0 d02V1.1 d04V13.0 d05V1.1 d0dV
  d0eV1.1 d11V d12V1.1 d29V6.0 d2aV1.1 d3aV6.0 d3bV10.0 d3dV5.1 d3eV1.1 d44V5.1 d45V d46V1.1 d49V
  d4aV1.1 d4eV6.0 d4fV9.0 d50V d54V9.0 d57V1.1 d58V9.0 d5fV8.0 d60V1.1 d62V5.1 d64V d66V1.1
  d70V5.1 d76V9.0 d79V5.1 d80V d81V13.0 d82V3.0 d84V d85V3.0 d97V d9aV3.0 db2V db3V3.0 dbcV
  dbdV3.0 dbeV dc0V3.0 dc7V dcaV3.0 dcbV dcfV3.0 dd5V dd6V3.0 dd7V dd8V3.0 de0V de6V7.0 df0V
  df2V3.0 df5V e01V1.1 e3bV e3fV1.1 e5cV e81V1.1 e83V e84V1.1 e85V e86V12.0 e87V1.1 e89V12.0
  e8aV1.1 e8bV e8cV12.0 e8dV1.1 e8eV12.0 e94V1.1 e98V12.0 e99V1.1 ea0V12.0 ea1V1.1 ea4V ea5V1.1
  ea6V ea7V1.1 ea8V12.0 eaaV1.1 eacV12.0 eadV1.1 ebaV12.0 ebbV1.1 ebeV ec0V1.1 ec5V ec6V1.1 ec7V
  ec8V1.1 eceV15.0 ecfV ed0V1.1 edaV edcV1.1 edeV6.1 ee0V f00V2.0 f48V f49V2.0 f6aV3.0 f6bV5.1
  f6dV f71V2.0 f8cV6.0 f90V2.0 f96V3.0 f97V2.0 f98V f99V2.0 faeV3.0 fb1V2.0 fb8V3.0 fb9V2.0
  fbaV3.0 fbdV fbeV3.0 fcdV fceV5.1 fcfV3.0 fd0V4.1 fd2V5.1 fd5V5.2 fd9V6.0 fdbV 1000V3.0 1022V5.1
  1023V3.0 1028V5.1 1029V3.0 102bV5.1 102cV3.0 1033V5.1 1036V3.0 103aV5.1 1040V3.0 105aV5.1
  109aV5.2 109eV5.1 10a0V1.1 10c6V 10c7V6.1 10c8V 10cdV6.1 10ceV 10d0V1.1 10f7V3.2 10f9V4.1
  10fbV1.1 10fcV4.1 10fdV6.1 1100V1.1 115aV5.2 115fV1.1 11a3V5.2 11a8V1.1 11faV5.2 1200V3.0
  1207V4.1 1208V3.0 1247V4.1 1248V3.0 1249V 124aV3.0 124eV 1250V3.0 1257V 1258V3.0 1259V 125aV3.0
  125eV 1260V3.0 1287V4.1 1288V3.0 1289V 128aV3.0 128eV 1290V3.0 12afV4.1 12b0V3.0 12b1V 12b2V3.0
  12b6V 12b8V3.0 12bfV 12c0V3.0 12c1V 12c2V3.0 12c6V 12c8V3.0 12cfV4.1 12d0V3.0 12d7V 12d8V3.0
  12efV4.1 12f0V3.0 130fV4.1 1310V3.0 1311V 1312V3.0 1316V 1318V3.0 131fV4.1 1320V3.0 1347V4.1
  1348V3.0 135bV 135dV6.0 135fV4.1 1361V3.0 137dV 1380V4.1 139aV 13a0V3.0 13f5V8.0 13f6V 13f8V8.0
  13feV 1400V5.2 1401V3.0 1677V5.2 1680V3.0 169dV 16a0V3.0 16f1V7.0 16f9V 1700V3.2 170dV14.0
  170eV3.2 1715V14.0 1716V 171fV14.0 1720V3.2 1737V 1740V3.2 1754V 1760V3.2 176dV 176eV3.2 1771V
  1772V3.2 1774V 1780V3.0 17ddV4.0 17deV 17e0V3.0 17eaV 17f0V4.0 17faV 1800V3.0 180fV14.0 1810V3.0
  181aV 1820V3.0 1878V11.0 1879V 1880V3.0 18aaV5.1 18abV 18b0V5.2 18f6V 1900V4.0 191dV7.0 191fV
  1920V4.0 192cV 1930V4.0 193cV 1940V4.0 1941V 1944V4.0 196eV 1970V4.0 1975V 1980V4.1 19aaV5.2
  19acV 19b0V4.1 19caV 19d0V4.1 19daV5.2 19dbV 19deV4.1 19e0V4.0 1a00V4.1 1a1cV 1a1eV4.1 1a20V5.2
  1a5fV 1a60V5.2 1a7dV 1a7fV5.2 1a8aV 1a90V5.2 1a9aV 1aa0V5.2 1aaeV 1ab0V7.0 1abfV13.0 1ac1V14.0
  1acfV 1b00V5.0 1b4cV14.0 1b4dV 1b4eV16.0 1b50V5.0 1b7dV14.0 1b7fV16.0 1b80V5.1 1babV6.1 1baeV5.1
  1bbaV6.1 1bc0V6.0 1bf4V 1bfcV6.0 1c00V5.1 1c38V 1c3bV5.1 1c4aV 1c4dV5.1 1c80V9.0 1c89V16.0 1c8bV
  1c90V11.0 1cbbV 1cbdV11.0 1cc0V6.1 1cc8V 1cd0V5.2 1cf3V6.1 1cf7V10.0 1cf8V7.0 1cfaV12.0 1cfbV
  1d00V4.0 1d6cV4.1 1dc4V5.0 1dcbV5.1 1de7V7.0 1df6V10.0 1dfaV14.0 1dfbV9.0 1dfcV6.0 1dfdV5.2
  1dfeV5.0 1e00V1.1 1e9bV2.0 1e9cV5.1 1ea0V1.1 1efaV5.1 1f00V1.1 1f16V 1f18V1.1 1f1eV 1f20V1.1
  1f46V 1f48V1.1 1f4eV 1f50V1.1 1f58V 1f59V1.1 1f5aV 1f5bV1.1 1f5cV 1f5dV1.1 1f5eV 1f5fV1.1 1f7eV
  1f80V1.1 1fb5V 1fb6V1.1 1fc5V 1fc6V1.1 1fd4V 1fd6V1.1 1fdcV 1fddV1.1 1ff0V 1ff2V1.1 1ff5V
  1ff6V1.1 1fffV 2000V1.1 202fV3.0 2030V1.1 2047V3.2 2048V3.0 204eV3.2 2053V4.0 2055V4.1 2057V3.2
  2058V4.1 205fV3.2 2064V5.1 2065V 2066V6.3 206aV1.1 2071V3.2 2072V 2074V1.1 208fV 2090V4.1
  2095V6.0 209dV 20a0V1.1 20abV2.0 20acV2.1 20adV3.0 20b0V3.2 20b2V4.1 20b6V5.2 20b9V6.0 20baV6.2
  20bbV7.0 20beV8.0 20bfV10.0 20c0V14.0 20c1V 20d0V1.1 20e2V3.0 20e4V3.2 20ebV4.1 20ecV5.0
  20f0V5.1 20f1V 2100V1.1 2139V3.0 213bV4.0 213cV4.1 213dV3.2 214cV4.1 214dV5.0 214fV5.1 2150V5.2
  2153V1.1 2183V3.0 2184V5.0 2185V5.1 2189V5.2 218aV8.0 218cV 2190V1.1 21ebV3.0 21f4V3.2 2200V1.1
  22f2V3.2 2300V1.1 2301V3.0 2302V1.1 237bV3.0 237cV3.2 237dV3.0 239bV3.2 23cfV4.0 23d1V4.1
  23dcV5.0 23e8V5.2 23e9V6.0 23f4V7.0 23fbV9.0 23ffV10.0 2400V1.1 2425V3.0 2427V16.0 242aV
  2440V1.1 244bV 2460V1.1 24ebV3.2 24ffV4.0 2500V1.1 2596V3.2 25a0V1.1 25f0V3.0 25f8V3.2 2600V1.1
  2614V4.0 2616V3.2 2618V4.1 2619V3.0 261aV1.1 2670V3.0 2672V3.2 267eV4.1 2680V3.2 268aV4.0
  2692V4.1 269dV5.1 269eV5.2 26a0V4.0 26a2V4.1 26b2V5.0 26b3V5.1 26bdV5.2 26c0V5.1 26c4V5.2
  26ceV6.0 26cfV5.2 26e2V6.0 26e3V5.2 26e4V6.0 26e8V5.2 2700V7.0 2701V1.1 2705V6.0 2706V1.1
  270aV6.0 270cV1.1 2728V6.0 2729V1.1 274cV6.0 274dV1.1 274eV6.0 274fV1.1 2753V6.0 2756V1.1
  2757V5.2 2758V1.1 275fV6.0 2761V1.1 2768V3.2 2776V1.1 2795V6.0 2798V1.1 27b0V6.0 27b1V1.1
  27bfV6.0 27c0V4.1 27c7V5.0 27cbV6.1 27ccV5.1 27cdV6.1 27ceV6.0 27d0V3.2 27ecV5.1 27f0V3.2
  2800V3.0 2900V3.2 2b00V4.0 2b0eV4.1 2b14V5.0 2b1bV5.1 2b20V5.0 2b24V5.1 2b4dV7.0 2b50V5.1
  2b55V5.2 2b5aV7.0 2b74V 2b76V7.0 2b96V 2b97V13.0 2b98V7.0 2bbaV11.0 2bbdV7.0 2bc9V12.0 2bcaV7.0
  2bd2V10.0 2bd3V11.0 2becV8.0 2bf0V11.0 2bffV12.0 2c00V4.1 2c2fV14.0 2c30V4.1 2c5fV14.0 2c60V5.0
  2c6dV5.1 2c70V5.2 2c71V5.1 2c74V5.0 2c78V5.1 2c7eV5.2 2c80V4.1 2cebV5.2 2cf2V6.1 2cf4V 2cf9V4.1
  2d26V 2d27V6.1 2d28V 2d2dV6.1 2d2eV 2d30V4.1 2d66V6.1 2d68V 2d6fV4.1 2d70V6.0 2d71V 2d7fV6.0
  2d80V4.1 2d97V 2da0V4.1 2da7V 2da8V4.1 2dafV 2db0V4.1 2db7V 2db8V4.1 2dbfV 2dc0V4.1 2dc7V
  2dc8V4.1 2dcfV 2dd0V4.1 2dd7V 2dd8V4.1 2ddfV 2de0V5.1 2e00V4.1 2e18V5.1 2e1cV4.1 2e1eV5.1
  2e31V5.2 2e32V6.1 2e3cV7.0 2e43V9.0 2e45V10.0 2e4aV11.0 2e4fV12.0 2e50V13.0 2e53V14.0 2e5eV
  2e80V3.0 2e9aV 2e9bV3.0 2ef4V 2f00V3.0 2fd6V 2ff0V3.0 2ffcV15.1 3000V1.1 3038V3.0 303bV3.2
  303eV3.0 303fV1.1 3040V 3041V1.1 3095V3.2 3097V 3099V1.1 309fV3.2 30a1V1.1 30ffV3.2 3100V
  3105V1.1 312dV5.1 312eV10.0 312fV11.0 3130V 3131V1.1 318fV 3190V1.1 31a0V3.0 31b8V6.0 31bbV13.0
  31c0V4.1 31d0V5.1 31e4V16.0 31e6V 31efV15.1 31f0V3.2 3200V1.1 321dV4.0 321fV 3220V1.1 3244V5.2
  3250V4.0 3251V3.2 3260V1.1 327cV4.0 327eV4.1 327fV1.1 32b1V3.2 32c0V1.1 32ccV4.0 32d0V1.1
  32ffV12.1 3300V1.1 3377V4.0 337bV1.1 33deV4.0 33e0V1.1 33ffV4.0 3400V3.0 4db6V13.0 4dc0V4.0
  4e00V1.1 9fa6V4.1 9fbcV5.1 9fc4V5.2 9fccV6.1 9fcdV8.0 9fd6V10.0 9febV11.0 9ff0V13.0 9ffdV14.0
  a000V3.0 a48dV a490V3.0 a4a2V3.2 a4a4V3.0 a4b4V3.2 a4b5V3.0 a4c1V3.2 a4c2V3.0 a4c5V3.2 a4c6V3.0
  a4c7V a4d0V5.2 a500V5.1 a62cV a640V5.1 a660V6.0 a662V5.1 a674V6.1 a67cV5.1 a698V7.0 a69eV8.0
  a69fV6.1 a6a0V5.2 a6f8V a700V4.1 a717V5.0 a71bV5.1 a720V5.0 a722V5.1 a78dV6.0 a78fV8.0 a790V6.0
  a792V6.1 a794V7.0 a7a0V6.0 a7aaV6.1 a7abV7.0 a7aeV9.0 a7afV11.0 a7b0V7.0 a7b2V8.0 a7b8V11.0
  a7baV12.0 a7c0V14.0 a7c2V12.0 a7c7V13.0 a7cbV16.0 a7ceV a7d0V14.0 a7d2V a7d3V14.0 a7d4V
  a7d5V14.0 a7daV16.0 a7ddV a7f2V14.0 a7f5V13.0 a7f7V7.0 a7f8V6.1 a7faV6.0 a7fbV5.1 a800V4.1
  a82cV13.0 a82dV a830V5.2 a83aV a840V5.0 a878V a880V5.1 a8c5V9.0 a8c6V a8ceV5.1 a8daV a8e0V5.2
  a8fcV8.0 a8feV11.0 a900V5.1 a954V a95fV5.1 a960V5.2 a97dV a980V5.2 a9ceV a9cfV5.2 a9daV a9deV5.2
  a9e0V7.0 a9ffV aa00V5.1 aa37V aa40V5.1 aa4eV aa50V5.1 aa5aV aa5cV5.1 aa60V5.2 aa7cV7.0 aa80V5.2
  aac3V aadbV5.2 aae0V6.1 aaf7V ab01V6.0 ab07V ab09V6.0 ab0fV ab11V6.0 ab17V ab20V6.0 ab27V
  ab28V6.0 ab2fV ab30V7.0 ab60V8.0 ab64V7.0 ab66V12.0 ab68V13.0 ab6cV ab70V8.0 abc0V5.2 abeeV
  abf0V5.2 abfaV ac00V2.0 d7a4V d7b0V5.2 d7c7V d7cbV5.2 d7fcV d800V2.0 e000V1.1 fa2eV6.1 fa30V3.2
  fa6bV5.2 fa6eV fa70V4.1 fadaV fb00V1.1 fb07V fb13V1.1 fb18V fb1dV3.0 fb1eV1.1 fb37V fb38V1.1
  fb3dV fb3eV1.1 fb3fV fb40V1.1 fb42V fb43V1.1 fb45V fb46V1.1 fbb2V6.0 fbc2V14.0 fbc3V fbd3V1.1
  fd40V14.0 fd50V1.1 fd90V fd92V1.1 fdc8V fdcfV14.0 fdd0V3.1 fdf0V1.1 fdfcV3.2 fdfdV4.0 fdfeV14.0
  fe00V3.2 fe10V4.1 fe1aV fe20V1.1 fe24V5.1 fe27V7.0 fe2eV8.0 fe30V1.1 fe45V3.2 fe47V4.0 fe49V1.1
  fe53V fe54V1.1 fe67V fe68V1.1 fe6cV fe70V1.1 fe73V3.2 fe74V1.1 fe75V fe76V1.1 fefdV feffV1.1
  ff00V ff01V1.1 ff5fV3.2 ff61V1.1 ffbfV ffc2V1.1 ffc8V ffcaV1.1 ffd0V ffd2V1.1 ffd8V ffdaV1.1
  ffddV ffe0V1.1 ffe7V ffe8V1.1 ffefV fff9V3.0 fffcV2.1 fffdV1.1 10000V4.0 1000cV 1000dV4.0 10027V
  10028V4.0 1003bV 1003cV4.0 1003eV 1003fV4.0 1004eV 10050V4.0 1005eV 10080V4.0 100fbV 10100V4.0
  10103V 10107V4.0 10134V 10137V4.0 10140V4.1 1018bV7.0 1018dV9.0 1018fV 10190V5.1 1019cV13.0
  1019dV 101a0V7.0 101a1V 101d0V5.1 101feV 10280V5.1 1029dV 102a0V5.1 102d1V 102e0V7.0 102fcV
  10300V3.1 1031fV7.0 10320V3.1 10324V 1032dV10.0 10330V3.1 1034bV 10350V7.0 1037bV 10380V4.0
  1039eV 1039fV4.0 103a0V4.1 103c4V 103c8V4.1 103d6V 10400V3.1 10426V4.0 10428V3.1 1044eV4.0
  1049eV 104a0V4.0 104aaV 104b0V9.0 104d4V 104d8V9.0 104fcV 10500V7.0 10528V 10530V7.0 10564V
  1056fV7.0 10570V14.0 1057bV 1057cV14.0 1058bV 1058cV14.0 10593V 10594V14.0 10596V 10597V14.0
  105a2V 105a3V14.0 105b2V 105b3V14.0 105baV 105bbV14.0 105bdV 105c0V16.0 105f4V 10600V7.0 10737V
  10740V7.0 10756V 10760V7.0 10768V 10780V14.0 10786V 10787V14.0 107b1V 107b2V14.0 107bbV
  10800V4.0 10806V 10808V4.0 10809V 1080aV4.0 10836V 10837V4.0 10839V 1083cV4.0 1083dV 1083fV4.0
  10840V5.2 10856V 10857V5.2 10860V7.0 1089fV 108a7V7.0 108b0V 108e0V8.0 108f3V 108f4V8.0 108f6V
  108fbV8.0 10900V5.0 1091aV5.2 1091cV 1091fV5.0 10920V5.1 1093aV 1093fV5.1 10940V 10980V6.1
  109b8V 109bcV8.0 109beV6.1 109c0V8.0 109d0V 109d2V8.0 10a00V4.1 10a04V 10a05V4.1 10a07V
  10a0cV4.1 10a14V 10a15V4.1 10a18V 10a19V4.1 10a34V11.0 10a36V 10a38V4.1 10a3bV 10a3fV4.1
  10a48V11.0 10a49V 10a50V4.1 10a59V 10a60V5.2 10a80V7.0 10aa0V 10ac0V7.0 10ae7V 10aebV7.0 10af7V
  10b00V5.2 10b36V 10b39V5.2 10b56V 10b58V5.2 10b73V 10b78V5.2 10b80V7.0 10b92V 10b99V7.0 10b9dV
  10ba9V7.0 10bb0V 10c00V5.2 10c49V 10c80V8.0 10cb3V 10cc0V8.0 10cf3V 10cfaV8.0 10d00V11.0 10d28V
  10d30V11.0 10d3aV 10d40V16.0 10d66V 10d69V16.0 10d86V 10d8eV16.0 10d90V 10e60V5.2 10e7fV
  10e80V13.0 10eaaV 10eabV13.0 10eaeV 10eb0V13.0 10eb2V 10ec2V16.0 10ec5V 10efcV16.0 10efdV15.0
  10f00V11.0 10f28V 10f30V11.0 10f5aV 10f70V14.0 10f8aV 10fb0V13.0 10fccV 10fe0V12.0 10ff7V
  11000V6.0 1104eV 11052V6.0 11070V14.0 11076V 1107fV7.0 11080V5.2 110c2V14.0 110c3V 110cdV11.0
  110ceV 110d0V6.1 110e9V 110f0V6.1 110faV 11100V6.1 11135V 11136V6.1 11144V11.0 11147V13.0 11148V
  11150V7.0 11177V 11180V6.1 111c9V8.0 111cdV7.0 111ceV13.0 111d0V6.1 111daV7.0 111dbV8.0 111e0V
  111e1V7.0 111f5V 11200V7.0 11212V 11213V7.0 1123eV9.0 1123fV15.0 11242V 11280V8.0 11287V
  11288V8.0 11289V 1128aV8.0 1128eV 1128fV8.0 1129eV 1129fV8.0 112aaV 112b0V7.0 112ebV 112f0V7.0
  112faV 11300V8.0 11301V7.0 11304V 11305V7.0 1130dV 1130fV7.0 11311V 11313V7.0 11329V 1132aV7.0
  11331V 11332V7.0 11334V 11335V7.0 1133aV 1133bV11.0 1133cV7.0 11345V 11347V7.0 11349V 1134bV7.0
  1134eV 11350V8.0 11351V 11357V7.0 11358V 1135dV7.0 11364V 11366V7.0 1136dV 11370V7.0 11375V
  11380V16.0 1138aV 1138bV16.0 1138cV 1138eV16.0 1138fV 11390V16.0 113b6V 113b7V16.0 113c1V
  113c2V16.0 113c3V 113c5V16.0 113c6V 113c7V16.0 113cbV 113ccV16.0 113d6V 113d7V16.0 113d9V
  113e1V16.0 113e3V 11400V9.0 1145aV13.0 1145bV9.0 1145cV 1145dV9.0 1145eV11.0 1145fV12.0
  11460V13.0 11462V 11480V7.0 114c8V 114d0V7.0 114daV 11580V7.0 115b6V 115b8V7.0 115caV8.0 115deV
  11600V7.0 11645V 11650V7.0 1165aV 11660V9.0 1166dV 11680V6.1 116b8V12.0 116b9V14.0 116baV
  116c0V6.1 116caV 116d0V16.0 116e4V 11700V8.0 1171aV11.0 1171bV 1171dV8.0 1172cV 11730V8.0
  11740V14.0 11747V 11800V11.0 1183cV 118a0V7.0 118f3V 118ffV7.0 11900V13.0 11907V 11909V13.0
  1190aV 1190cV13.0 11914V 11915V13.0 11917V 11918V13.0 11936V 11937V13.0 11939V 1193bV13.0 11947V
  11950V13.0 1195aV 119a0V12.0 119a8V 119aaV12.0 119d8V 119daV12.0 119e5V 11a00V10.0 11a48V
  11a50V10.0 11a84V12.0 11a86V10.0 11a9dV11.0 11a9eV10.0 11aa3V 11ab0V14.0 11ac0V7.0 11af9V
  11b00V15.0 11b0aV 11bc0V16.0 11be2V 11bf0V16.0 11bfaV 11c00V9.0 11c09V 11c0aV9.0 11c37V
  11c38V9.0 11c46V 11c50V9.0 11c6dV 11c70V9.0 11c90V 11c92V9.0 11ca8V 11ca9V9.0 11cb7V 11d00V10.0
  11d07V 11d08V10.0 11d0aV 11d0bV10.0 11d37V 11d3aV10.0 11d3bV 11d3cV10.0 11d3eV 11d3fV10.0 11d48V
  11d50V10.0 11d5aV 11d60V11.0 11d66V 11d67V11.0 11d69V 11d6aV11.0 11d8fV 11d90V11.0 11d92V
  11d93V11.0 11d99V 11da0V11.0 11daaV 11ee0V11.0 11ef9V 11f00V15.0 11f11V 11f12V15.0 11f3bV
  11f3eV15.0 11f5aV16.0 11f5bV 11fb0V13.0 11fb1V 11fc0V12.0 11ff2V 11fffV12.0 12000V5.0 1236fV7.0
  12399V8.0 1239aV 12400V5.0 12463V7.0 1246fV 12470V5.0 12474V7.0 12475V 12480V8.0 12544V
  12f90V14.0 12ff3V 13000V5.2 1342fV15.0 13430V12.0 13439V15.0 13456V 13460V16.0 143fbV 14400V8.0
  14647V 16100V16.0 1613aV 16800V6.0 16a39V 16a40V7.0 16a5fV 16a60V7.0 16a6aV 16a6eV7.0 16a70V14.0
  16abfV 16ac0V14.0 16acaV 16ad0V7.0 16aeeV 16af0V7.0 16af6V 16b00V7.0 16b46V 16b50V7.0 16b5aV
  16b5bV7.0 16b62V 16b63V7.0 16b78V 16b7dV7.0 16b90V 16d40V16.0 16d7aV 16e40V11.0 16e9bV 16f00V6.1
  16f45V12.0 16f4bV 16f4fV12.0 16f50V6.1 16f7fV12.0 16f88V 16f8fV6.1 16fa0V 16fe0V9.0 16fe1V10.0
  16fe2V12.0 16fe4V13.0 16fe5V 16ff0V13.0 16ff2V 17000V9.0 187edV11.0 187f2V12.0 187f8V 18800V9.0
  18af3V13.0 18cd6V 18cffV16.0 18d00V13.0 18d09V 1aff0V14.0 1aff4V 1aff5V14.0 1affcV 1affdV14.0
  1afffV 1b000V6.0 1b002V10.0 1b11fV14.0 1b123V 1b132V15.0 1b133V 1b150V12.0 1b153V 1b155V15.0
  1b156V 1b164V12.0 1b168V 1b170V10.0 1b2fcV 1bc00V7.0 1bc6bV 1bc70V7.0 1bc7dV 1bc80V7.0 1bc89V
  1bc90V7.0 1bc9aV 1bc9cV7.0 1bca4V 1cc00V16.0 1ccfaV 1cd00V16.0 1ceb4V 1cf00V14.0 1cf2eV
  1cf30V14.0 1cf47V 1cf50V14.0 1cfc4V 1d000V3.1 1d0f6V 1d100V3.1 1d127V 1d129V5.1 1d12aV3.1
  1d1deV8.0 1d1e9V14.0 1d1ebV 1d200V4.1 1d246V 1d2c0V15.0 1d2d4V 1d2e0V11.0 1d2f4V 1d300V4.0
  1d357V 1d360V5.0 1d372V11.0 1d379V 1d400V3.1 1d455V 1d456V3.1 1d49dV 1d49eV3.1 1d4a0V 1d4a2V3.1
  1d4a3V 1d4a5V3.1 1d4a7V 1d4a9V3.1 1d4adV 1d4aeV3.1 1d4baV 1d4bbV3.1 1d4bcV 1d4bdV3.1 1d4c1V4.0
  1d4c2V3.1 1d4c4V 1d4c5V3.1 1d506V 1d507V3.1 1d50bV 1d50dV3.1 1d515V 1d516V3.1 1d51dV 1d51eV3.1
  1d53aV 1d53bV3.1 1d53fV 1d540V3.1 1d545V 1d546V3.1 1d547V 1d54aV3.1 1d551V 1d552V3.1 1d6a4V4.1
  1d6a6V 1d6a8V3.1 1d7caV5.0 1d7ccV 1d7ceV3.1 1d800V8.0 1da8cV 1da9bV8.0 1daa0V 1daa1V8.0 1dab0V
  1df00V14.0 1df1fV 1df25V15.0 1df2bV 1e000V9.0 1e007V 1e008V9.0 1e019V 1e01bV9.0 1e022V 1e023V9.0
  1e025V 1e026V9.0 1e02bV 1e030V15.0 1e06eV 1e08fV15.0 1e090V 1e100V12.0 1e12dV 1e130V12.0 1e13eV
  1e140V12.0 1e14aV 1e14eV12.0 1e150V 1e290V14.0 1e2afV 1e2c0V12.0 1e2faV 1e2ffV12.0 1e300V
  1e4d0V15.0 1e4faV 1e5d0V16.0 1e5fbV 1e5ffV16.0 1e600V 1e7e0V14.0 1e7e7V 1e7e8V14.0 1e7ecV
  1e7edV14.0 1e7efV 1e7f0V14.0 1e7ffV 1e800V7.0 1e8c5V 1e8c7V7.0 1e8d7V 1e900V9.0 1e94bV12.0
  1e94cV 1e950V9.0 1e95aV 1e95eV9.0 1e960V 1ec71V11.0 1ecb5V 1ed01V12.0 1ed3eV 1ee00V6.1 1ee04V
  1ee05V6.1 1ee20V 1ee21V6.1 1ee23V 1ee24V6.1 1ee25V 1ee27V6.1 1ee28V 1ee29V6.1 1ee33V 1ee34V6.1
  1ee38V 1ee39V6.1 1ee3aV 1ee3bV6.1 1ee3cV 1ee42V6.1 1ee43V 1ee47V6.1 1ee48V 1ee49V6.1 1ee4aV
  1ee4bV6.1 1ee4cV 1ee4dV6.1 1ee50V 1ee51V6.1 1ee53V 1ee54V6.1 1ee55V 1ee57V6.1 1ee58V 1ee59V6.1
  1ee5aV 1ee5bV6.1 1ee5cV 1ee5dV6.1 1ee5eV 1ee5fV6.1 1ee60V 1ee61V6.1 1ee63V 1ee64V6.1 1ee65V
  1ee67V6.1 1ee6bV 1ee6cV6.1 1ee73V 1ee74V6.1 1ee78V 1ee79V6.1 1ee7dV 1ee7eV6.1 1ee7fV 1ee80V6.1
  1ee8aV 1ee8bV6.1 1ee9cV 1eea1V6.1 1eea4V 1eea5V6.1 1eeaaV 1eeabV6.1 1eebcV 1eef0V6.1 1eef2V
  1f000V5.1 1f02cV 1f030V5.1 1f094V 1f0a0V6.0 1f0afV 1f0b1V6.0 1f0bfV7.0 1f0c0V 1f0c1V6.0 1f0d0V
  1f0d1V6.0 1f0e0V7.0 1f0f6V 1f100V5.2 1f10bV7.0 1f10dV13.0 1f110V5.2 1f12fV11.0 1f130V6.0
  1f131V5.2 1f132V6.0 1f13dV5.2 1f13eV6.0 1f13fV5.2 1f140V6.0 1f142V5.2 1f143V6.0 1f146V5.2
  1f147V6.0 1f14aV5.2 1f14fV6.0 1f157V5.2 1f158V6.0 1f15fV5.2 1f160V6.0 1f16aV6.1 1f16cV12.0
  1f16dV13.0 1f170V6.0 1f179V5.2 1f17aV6.0 1f17bV5.2 1f17dV6.0 1f17fV5.2 1f180V6.0 1f18aV5.2
  1f18eV6.0 1f190V5.2 1f191V6.0 1f19bV9.0 1f1adV13.0 1f1aeV 1f1e6V6.0 1f200V5.2 1f201V6.0 1f203V
  1f210V5.2 1f232V6.0 1f23bV9.0 1f23cV 1f240V5.2 1f249V 1f250V6.0 1f252V 1f260V10.0 1f266V
  1f300V6.0 1f321V7.0 1f32dV8.0 1f330V6.0 1f336V7.0 1f337V6.0 1f37dV7.0 1f37eV8.0 1f380V6.0
  1f394V7.0 1f3a0V6.0 1f3c5V7.0 1f3c6V6.0 1f3cbV7.0 1f3cfV8.0 1f3d4V7.0 1f3e0V6.0 1f3f1V7.0
  1f3f8V8.0 1f400V6.0 1f43fV7.0 1f440V6.0 1f441V7.0 1f442V6.0 1f4f8V7.0 1f4f9V6.0 1f4fdV7.0
  1f4ffV8.0 1f500V6.0 1f53eV7.0 1f540V6.1 1f544V7.0 1f54bV8.0 1f550V6.0 1f568V7.0 1f57aV9.0
  1f57bV7.0 1f5a4V9.0 1f5a5V7.0 1f5fbV6.0 1f600V6.1 1f601V6.0 1f611V6.1 1f612V6.0 1f615V6.1
  1f616V6.0 1f617V6.1 1f618V6.0 1f619V6.1 1f61aV6.0 1f61bV6.1 1f61cV6.0 1f61fV6.1 1f620V6.0
  1f626V6.1 1f628V6.0 1f62cV6.1 1f62dV6.0 1f62eV6.1 1f630V6.0 1f634V6.1 1f635V6.0 1f641V7.0
  1f643V8.0 1f645V6.0 1f650V7.0 1f680V6.0 1f6c6V7.0 1f6d0V8.0 1f6d1V9.0 1f6d3V10.0 1f6d5V12.0
  1f6d6V13.0 1f6d8V 1f6dcV15.0 1f6ddV14.0 1f6e0V7.0 1f6edV 1f6f0V7.0 1f6f4V9.0 1f6f7V10.0
  1f6f9V11.0 1f6faV12.0 1f6fbV13.0 1f6fdV 1f700V6.0 1f774V15.0 1f777V 1f77bV15.0 1f780V7.0
  1f7d5V11.0 1f7d9V15.0 1f7daV 1f7e0V12.0 1f7ecV 1f7f0V14.0 1f7f1V 1f800V7.0 1f80cV 1f810V7.0
  1f848V 1f850V7.0 1f85aV 1f860V7.0 1f888V 1f890V7.0 1f8aeV 1f8b0V13.0 1f8b2V16.0 1f8bcV
  1f8c0V16.0 1f8c2V 1f900V10.0 1f90cV13.0 1f90dV12.0 1f910V8.0 1f919V9.0 1f91fV10.0 1f920V9.0
  1f928V10.0 1f930V9.0 1f931V10.0 1f933V9.0 1f93fV12.0 1f940V9.0 1f94cV10.0 1f94dV11.0 1f950V9.0
  1f95fV10.0 1f96cV11.0 1f971V12.0 1f972V13.0 1f973V11.0 1f977V13.0 1f979V14.0 1f97aV11.0
  1f97bV12.0 1f97cV11.0 1f980V8.0 1f985V9.0 1f992V10.0 1f998V11.0 1f9a3V13.0 1f9a5V12.0 1f9abV13.0
  1f9aeV12.0 1f9b0V11.0 1f9baV12.0 1f9c0V8.0 1f9c1V11.0 1f9c3V12.0 1f9cbV13.0 1f9ccV14.0
  1f9cdV12.0 1f9d0V10.0 1f9e7V11.0 1fa00V12.0 1fa54V 1fa60V11.0 1fa6eV 1fa70V12.0 1fa74V13.0
  1fa75V15.0 1fa78V12.0 1fa7bV14.0 1fa7dV 1fa80V12.0 1fa83V13.0 1fa87V15.0 1fa89V16.0 1fa8aV
  1fa8fV16.0 1fa90V12.0 1fa96V13.0 1faa9V14.0 1faadV15.0 1fab0V13.0 1fab7V14.0 1fabbV15.0
  1fabeV16.0 1fabfV15.0 1fac0V13.0 1fac3V14.0 1fac6V16.0 1fac7V 1faceV15.0 1fad0V13.0 1fad7V14.0
  1fadaV15.0 1fadcV16.0 1faddV 1fadfV16.0 1fae0V14.0 1fae8V15.0 1fae9V16.0 1faeaV 1faf0V14.0
  1faf7V15.0 1faf9V 1fb00V13.0 1fb93V 1fb94V13.0 1fbcbV16.0 1fbf0V13.0 1fbfaV 1fffeV2.0 20000V3.1
  2a6d7V13.0 2a6deV14.0 2a6e0V 2a700V5.2 2b735V14.0 2b739V15.0 2b73aV 2b740V6.0 2b81eV 2b820V8.0
  2cea2V 2ceb0V10.0 2ebe1V 2ebf0V15.1 2ee5eV 2f800V3.1 2fa1eV 2fffeV2.0 30000V13.0 3134bV
  31350V15.0 323b0V 3fffeV2.0 40000V 4fffeV2.0 50000V 5fffeV2.0 60000V 6fffeV2.0 70000V 7fffeV2.0
  80000V 8fffeV2.0 90000V 9fffeV2.0 a0000V afffeV2.0 b0000V bfffeV2.0 c0000V cfffeV2.0 d0000V
  dfffeV2.0 e0000V e0001V3.1 e0002V e0020V3.1 e0080V e0100V4.0 e01f0V efffeV2.0"

def ageRuns : Array Run := runsOfText ageText

def ages : List String := [
  "V1.1", "V2.0", "V2.1", "V3.0", "V3.1", "V3.2", "V4.0", "V4.1", "V5.0", "V5.1", "V5.2", "V6.0",
  "V6.1", "V6.2", "V6.3", "V7.0", "V8.0", "V9.0", "V10.0", "V11.0", "V12.0", "V12.1", "V13.0",
  "V14.0", "V15.0", "V15.1", "V16.0"]

end RuleQuery.Text
